import RoleSync.Sql.Operator
/-!
JSON texts, as the JSON functions read and write them.

A JSON text is read into a tree that holds it in canonical form: strings keep the standard
escapes as written, and numbers keep their digits as written, so writing the tree back gives the
text without its blanks. The reader also takes the extensions of JSON5, and writes them in
canonical form: comments and more kinds of blank, single-quoted strings and the escapes \'
\v \0 \xHH and escaped line breaks, object keys written as bare names, trailing commas, numbers
with a plus sign, a bare decimal point or hexadecimal digits, and Infinity and NaN. A text that
uses any of them is valid JSON5 but not valid JSON.
-/

namespace RoleSync.Sql

set_option autoImplicit false

/-- A JSON value in canonical form. A string holds its text between the quotes, with the
standard escapes as written; a number holds its digits. -/
inductive JsonValue where
  | null
  | bool (b : Bool)
  | number (text : String)
  | string (escaped : String)
  | array (items : List JsonValue)
  | object (members : List (String × JsonValue))

namespace JsonValue

/-- Whether a character is a blank between JSON tokens. -/
def isBlank (c : Char) : Bool := c = ' ' || c = '\t' || c = '\n' || c = '\r'

/-- Whether a character is one of the further blanks of JSON5. -/
def isExtraBlank (c : Char) : Bool :=
  let n := c.toNat
  n = 0x0B || n = 0x0C || n = 0xA0 || n = 0x1680 || (0x2000 ≤ n && n ≤ 0x200A) ||
    n = 0x2028 || n = 0x2029 || n = 0x202F || n = 0x205F || n = 0x3000 || n = 0xFEFF

/-- Whether a character ends a line comment. -/
def endsLine (c : Char) : Bool := c = '\n' || c = '\r' || c.toNat = 0x2028 || c.toNat = 0x2029

/-- The text after a block comment's closing mark, or none when the comment is not closed. -/
def afterComment : List Char → Option (List Char)
  | '*' :: '/' :: rest => some rest
  | _ :: rest => afterComment rest
  | [] => none

/-- Drops the blanks and comments at the front of a text, within a number of steps; answers the
rest and whether any blank or comment of JSON5 was dropped, or none for a comment that is not
closed. -/
def skipSpaceWithin : Nat → List Char → Bool → Option (List Char × Bool)
  | 0, cs, extended => some (cs, extended)
  | n + 1, cs, extended =>
    match cs with
    | c :: rest =>
      if isBlank c then skipSpaceWithin n rest extended
      else if isExtraBlank c then skipSpaceWithin n rest true
      else
        match c, rest with
        | '/', '*' :: more =>
          match afterComment more with
          | some after => skipSpaceWithin n after true
          | none => none
        | '/', '/' :: more => skipSpaceWithin n (more.dropWhile fun c => !endsLine c) true
        | _, _ => some (cs, extended)
    | [] => some ([], extended)

/-- Drops the blanks and comments at the front of a text. Each step drops at least one
character, so the text's length bounds the steps. -/
def skipSpace (cs : List Char) (extended : Bool) : Option (List Char × Bool) :=
  skipSpaceWithin (cs.length + 1) cs extended

/-- Whether a character is a hexadecimal digit. -/
def isHexDigit (c : Char) : Bool := isDigit c || ('a' ≤ c && c ≤ 'f') || ('A' ≤ c && c ≤ 'F')

/-- Whether a character may start a bare object key. -/
def isKeyStart (c : Char) : Bool :=
  ('a' ≤ c && c ≤ 'z') || ('A' ≤ c && c ≤ 'Z') || c = '_' || c = '$' || 0x80 ≤ c.toNat

/-- Whether a character may stand in a bare object key after its first. -/
def isKeyChar (c : Char) : Bool := isKeyStart c || isDigit c

/-- Whether a character is an ASCII letter or digit. -/
def isAlnum (c : Char) : Bool := ('a' ≤ c && c ≤ 'z') || ('A' ≤ c && c ≤ 'Z') || isDigit c

/-- Reads the rest of a string after its opening quote, up to the closing one: answers its
escaped text in canonical form, the text after, and whether it used JSON5. The standard escapes
are kept; a double quote or a control character standing in the string is escaped; and the
escapes of JSON5 become standard ones, or nothing for an escaped line break. -/
def readString (quote : Char) (acc : List Char) (extended : Bool) :
    List Char → Option (String × List Char × Bool)
  | [] => none
  | '\\' :: 'u' :: a :: b :: d :: e :: rest =>
    if [a, b, d, e].all isHexDigit then
      readString quote (e :: d :: b :: a :: 'u' :: '\\' :: acc) extended rest
    else none
  | '\\' :: 'x' :: a :: b :: rest =>
    if isHexDigit a && isHexDigit b then
      readString quote (b :: a :: '0' :: '0' :: 'u' :: '\\' :: acc) true rest
    else none
  | '\\' :: '\r' :: '\n' :: rest => readString quote acc true rest
  | '\\' :: c :: rest =>
    if "\"\\/bfnrt".toList.contains c then readString quote (c :: '\\' :: acc) extended rest
    else if c = Char.ofNat 39 then readString quote (c :: acc) true rest
    else if c = 'v' then readString quote ("9000u\\".toList ++ acc) true rest
    else if c = '0' && !((rest.head?.map isDigit).getD false) then
      readString quote ("0000u\\".toList ++ acc) true rest
    else if c = '\n' || c = '\r' || c.toNat = 0x2028 || c.toNat = 0x2029 then
      readString quote acc true rest
    else none
  | c :: rest =>
    if c = quote then some (String.ofList acc.reverse, rest, extended)
    else if c = '"' then readString quote ('"' :: '\\' :: acc) true rest
    else if c.toNat = 0 then none
    else if c.toNat < 0x20 then
      readString quote ((escape1 c).reverse ++ acc) true rest
    else readString quote (c :: acc) extended rest
where
  /-- The escape of a control character. -/
  escape1 (c : Char) : List Char :=
    let hex := "0123456789abcdef".toList
    if c.toNat = 8 then ['\\', 'b'] else if c = '\t' then ['\\', 't']
    else if c = '\n' then ['\\', 'n'] else if c.toNat = 12 then ['\\', 'f']
    else if c = '\r' then ['\\', 'r']
    else ['\\', 'u', '0', '0', hex.getD (c.toNat / 16) '0', hex.getD (c.toNat % 16) '0']

/-- The decimal digits of hexadecimal digits' value; a value of more than 60 bits is written
as an overflowing double. -/
def hexToDecimal (ds : List Char) : String :=
  let v := ds.foldl (fun acc c =>
    let d := if isDigit c then c.toNat - '0'.toNat
      else if 'a' ≤ c && c ≤ 'f' then c.toNat - 'a'.toNat + 10
      else c.toNat - 'A'.toNat + 10
    16 * acc + d) 0
  if Nat.pow 2 64 ≤ v then "9.0e999" else toString v

/-- Reads a number: answers its canonical digits, the text after, and whether it used JSON5.
A plus sign is dropped, hexadecimal digits are written in decimal, a bare point gets a zero
beside it, and an infinity is written 9e999. -/
def readNumber (cs : List Char) : Option (String × List Char × Bool) :=
  let (sign, cs, plus) : List Char × List Char × Bool := match cs with
    | '-' :: r => (['-'], r, false)
    | '+' :: r => ([], r, true)
    | _ => ([], cs, false)
  let signed := !sign.isEmpty || plus
  let infinity := match cs with
    | i :: n :: f :: rest =>
      if signed && (String.ofList [i, n, f]).toLower = "inf" then
        some (if (String.ofList (rest.take 5)).toLower = "inity" then rest.drop 5 else rest)
      else none
    | _ => none
  match infinity with
  | some rest => some (String.ofList sign ++ "9e999", rest, true)
  | none =>
    match cs with
    | '0' :: x :: h :: rest =>
      if (x = 'x' || x = 'X') && isHexDigit h then
        let ds := (h :: rest).takeWhile isHexDigit
        some (String.ofList sign ++ hexToDecimal ds, (h :: rest).drop ds.length, true)
      else decimal sign plus cs
    | _ => decimal sign plus cs
where
  /-- Reads the decimal form of a number after its sign. -/
  decimal (sign : List Char) (plus : Bool) (cs : List Char) : Option (String × List Char × Bool) :=
    let whole := cs.takeWhile isDigit
    let cs := cs.drop whole.length
    if 1 < whole.length && whole.head? == some '0' then none
    else
      let (fraction, cs, pointOk) : List Char × List Char × Bool := match cs with
        | '.' :: r =>
          let ds := r.takeWhile isDigit
          ('.' :: ds, r.drop ds.length, true)
        | _ => ([], cs, true)
      let bareLead := whole.isEmpty
      let bareTrail := fraction = ['.']
      if bareLead && (fraction.length < 2) then none
      else
        let (exponent, cs, exponentOk) : List Char × List Char × Bool := match cs with
          | e :: r =>
            if e = 'e' || e = 'E' then
              let (s, r) : List Char × List Char := match r with
                | '+' :: q => (['+'], q)
                | '-' :: q => (['-'], q)
                | _ => ([], r)
              let ds := r.takeWhile isDigit
              (e :: s ++ ds, r.drop ds.length, !ds.isEmpty)
            else ([], cs, true)
          | [] => ([], cs, true)
        if pointOk && exponentOk then
          let whole := if bareLead then ['0'] else whole
          let fraction := if bareTrail then ['.', '0'] else fraction
          some (String.ofList (sign ++ whole ++ fraction ++ exponent), cs, plus || bareLead || bareTrail)
        else none

mutual

/-- Reads one value after blanks, within a number of steps and below a nesting depth; answers
it, the text after, and whether it used JSON5. -/
def read : Nat → Nat → List Char → Option (JsonValue × List Char × Bool)
  | 0, _, _ => none
  | n + 1, depth, cs =>
    match skipSpace cs false with
    | none => none
    | some (cs, extended) =>
      let mark (r : Option (JsonValue × List Char × Bool)) : Option (JsonValue × List Char × Bool) :=
        r.map fun (v, rest, e) => (v, rest, e || extended)
      mark <| match cs with
        | '"' :: rest => (readString '"' [] false rest).map fun (s, r, e) => (.string s, r, e)
        | '[' :: rest => if 1000 ≤ depth then none else readItems n (depth + 1) [] false rest
        | '\x7b' :: rest => if 1000 ≤ depth then none else readMembers n (depth + 1) [] false rest
        | c :: rest =>
          if c = Char.ofNat 39 then
            (readString c [] true rest).map fun (s, r, _) => (.string s, r, true)
          else word cs
        | [] => none
where
  /-- Reads a literal word or a number. -/
  word (cs : List Char) : Option (JsonValue × List Char × Bool) :=
    let bare := cs.takeWhile isAlnum
    let after := cs.drop bare.length
    let w := String.ofList bare
    if w = "null" then some (.null, after, false)
    else if w = "true" then some (.bool true, after, false)
    else if w = "false" then some (.bool false, after, false)
    else if w.toLower = "inf" || w.toLower = "infinity" then some (.number "9e999", after, true)
    else if w.toLower = "nan" || w.toLower = "qnan" || w.toLower = "snan" then some (.null, after, true)
    else (readNumber cs).map fun (t, r, e) => (.number t, r, e)

/-- Reads the items of an array after its opening bracket, the ones read so far given in
reverse. -/
def readItems : Nat → Nat → List JsonValue → Bool → List Char → Option (JsonValue × List Char × Bool)
  | 0, _, _, _, _ => none
  | n + 1, depth, acc, extended, cs =>
    match skipSpace cs extended with
    | none => none
    | some (cs, extended) =>
      match cs with
      | ']' :: r => some (.array acc.reverse, r, extended || !acc.isEmpty)
      | _ =>
        match read n depth cs with
        | none => none
        | some (v, r, e) =>
          match skipSpace r (extended || e) with
          | some (',' :: r, e) => readItems n depth (v :: acc) e r
          | some (']' :: r, e) => some (.array (v :: acc).reverse, r, e)
          | _ => none

/-- Reads the members of an object after its opening brace, the ones read so far given in
reverse. A key is a string or a bare name. -/
def readMembers : Nat → Nat → List (String × JsonValue) → Bool → List Char →
    Option (JsonValue × List Char × Bool)
  | 0, _, _, _, _ => none
  | n + 1, depth, acc, extended, cs =>
    match skipSpace cs extended with
    | none => none
    | some (cs, extended) =>
      let key : Option (String × List Char × Bool) := match cs with
        | '"' :: r => readString '"' [] extended r
        | c :: r =>
          if c = Char.ofNat 39 then (readString c [] true r).map fun (k, r, _) => (k, r, true)
          else if isKeyStart c then
            let more := r.takeWhile isKeyChar
            some (String.ofList (c :: more), r.drop more.length, true)
          else none
        | [] => none
      match cs with
      | '\x7d' :: r => some (.object acc.reverse, r, extended || !acc.isEmpty)
      | _ =>
        match key with
        | none => none
        | some (k, r, e) =>
          match skipSpace r (extended || e) with
          | some (':' :: r, e) =>
            match read n depth r with
            | none => none
            | some (v, r, e2) =>
              match skipSpace r (e || e2) with
              | some (',' :: r, e) => readMembers n depth ((k, v) :: acc) e r
              | some ('\x7d' :: r, e) => some (.object ((k, v) :: acc).reverse, r, e)
              | _ => none
          | _ => none

end

/-- Reads a whole text as one JSON value, blanks around it allowed; answers it with whether it
used JSON5. Every step of reading takes at least one character, so twice the text's length
bounds the steps. -/
def parse? (s : String) : Option (JsonValue × Bool) :=
  let cs := s.toList
  match read (2 * cs.length + 2) 0 cs with
  | some (v, rest, e) =>
    match skipSpace rest e with
    | some ([], e) => some (v, e)
    | _ => none
  | none => none

mutual

/-- The text of a value, without blanks. -/
def write : JsonValue → String
  | .null => "null"
  | .bool b => if b then "true" else "false"
  | .number t => t
  | .string s => "\"" ++ s ++ "\""
  | .array items => "[" ++ writeItems items ++ "]"
  | .object members => "\x7b" ++ writeMembers members ++ "\x7d"

/-- The text of the items of an array, separated by commas. -/
def writeItems : List JsonValue → String
  | [] => ""
  | [v] => write v
  | v :: rest => write v ++ "," ++ writeItems rest

/-- The text of the members of an object, separated by commas. -/
def writeMembers : List (String × JsonValue) → String
  | [] => ""
  | [(k, v)] => "\"" ++ k ++ "\":" ++ write v
  | (k, v) :: rest => "\"" ++ k ++ "\":" ++ write v ++ "," ++ writeMembers rest

end

/-- The value of four hexadecimal digits. -/
def hexValue (ds : List Char) : Nat :=
  ds.foldl (fun acc c =>
    let d := if isDigit c then c.toNat - '0'.toNat
      else if 'a' ≤ c && c ≤ 'f' then c.toNat - 'a'.toNat + 10
      else c.toNat - 'A'.toNat + 10
    16 * acc + d) 0

/-- The character of a code point; one that no character has becomes the replacement
character. -/
def codeChar (n : Nat) : Char :=
  if n < 0xD800 || (0xDFFF < n && n ≤ 0x10FFFF) then Char.ofNat n else Char.ofNat 0xFFFD

/-- The text a string's escaped text stands for. A pair of escapes for a high and a low
surrogate stands for the one character they encode together. -/
def unescape : List Char → List Char
  | [] => []
  | '\\' :: 'u' :: a :: b :: d :: e :: next@('\\' :: 'u' :: f :: g :: h :: i :: rest) =>
    let high := hexValue [a, b, d, e]
    let low := hexValue [f, g, h, i]
    if 0xD800 ≤ high && high < 0xDC00 && 0xDC00 ≤ low && low < 0xE000 then
      codeChar (0x10000 + (high - 0xD800) * 0x400 + (low - 0xDC00)) :: unescape rest
    else codeChar high :: unescape next
  | '\\' :: 'u' :: a :: b :: d :: e :: rest => codeChar (hexValue [a, b, d, e]) :: unescape rest
  | '\\' :: c :: rest =>
    let d := match c with
      | 'b' => Char.ofNat 8
      | 'f' => Char.ofNat 12
      | 'n' => '\n'
      | 'r' => '\r'
      | 't' => '\t'
      | c => c
    d :: unescape rest
  | c :: rest => c :: unescape rest

/-- A text as the escaped text of a JSON string: quotes and backslashes are escaped, and so
are control characters, by their short escape where they have one. -/
def escape (s : String) : String :=
  let hex := "0123456789abcdef".toList
  String.join (s.toList.map fun c =>
    if c = '"' then "\\\""
    else if c = '\\' then "\\\\"
    else if c.toNat = 8 then "\\b"
    else if c = '\t' then "\\t"
    else if c = '\n' then "\\n"
    else if c.toNat = 12 then "\\f"
    else if c = '\r' then "\\r"
    else if c.toNat < 0x20 then
      String.ofList ['\\', 'u', '0', '0', hex.getD (c.toNat / 16) '0', hex.getD (c.toNat % 16) '0']
    else c.toString)

/-- The name of a value's JSON type, as json_type gives it. -/
def typeName : JsonValue → String
  | .null => "null"
  | .bool b => if b then "true" else "false"
  | .number t => if t.toList.any fun c => c = '.' || c = 'e' || c = 'E' then "real" else "integer"
  | .string _ => "text"
  | .array _ => "array"
  | .object _ => "object"

/-- The database value a JSON value stands for: null is NULL, true and false are 1 and 0,
numbers are integers when written without point or exponent and they fit, and doubles
otherwise, strings are their text, and arrays and objects are their JSON text. -/
def toValue : JsonValue → Value
  | .null => .null
  | .bool b => .integer (if b then 1 else 0)
  | .number t => (numberOfText? t false).getD (.text t)
  | .string s => .text (String.ofList (unescape s.toList))
  | v => .text v.write

end JsonValue

end RoleSync.Sql
