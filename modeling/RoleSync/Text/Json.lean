/-!
JSON text of strings and of string lists, as the library writes and reads it: notice records
are written as JSON lines, and the database store keeps a member list as the JSON text of an
array of strings.

Writing escapes the quote, the backslash and the control characters, and nothing else.
Reading accepts exactly one array of strings with optional JSON whitespace around its tokens;
escapes are the JSON ones, and a \u escape of a lone surrogate is refused.
-/

namespace RoleSync.Text.Json

set_option autoImplicit false

/-- The lowercase hexadecimal digit of a number below 16. -/
def hexDigit (n : Nat) : Char :=
  if n < 10 then Char.ofNat (48 + n) else Char.ofNat (87 + n)

/-- The escaped form of one character inside a JSON string. -/
def escapeChar (c : Char) : List Char :=
  if c = '"' then ['\\', '"']
  else if c = '\\' then ['\\', '\\']
  else if c = '\n' then ['\\', 'n']
  else if c = '\r' then ['\\', 'r']
  else if c = '\t' then ['\\', 't']
  else if c.toNat = 8 then ['\\', 'b']
  else if c.toNat = 12 then ['\\', 'f']
  else if c.toNat < 32 then ['\\', 'u', '0', '0', hexDigit (c.toNat / 16), hexDigit (c.toNat % 16)]
  else [c]

/-- The JSON string literal of a text. -/
def quote (s : String) : String :=
  String.ofList ('"' :: (s.toList.flatMap escapeChar ++ ['"']))

/-- The JSON text of a list of strings, without spaces. -/
def writeStrings (xs : List String) : String :=
  "[" ++ ",".intercalate (xs.map quote) ++ "]"

/-! ## Reading an array of strings -/

/-- Whitespace between JSON tokens. -/
def isJsonSpace (c : Char) : Bool := c = ' ' || c = '\n' || c = '\r' || c = '\t'

/-- The value of a hexadecimal digit. -/
def hexValue? (c : Char) : Option Nat :=
  if '0' ≤ c ∧ c ≤ '9' then some (c.toNat - 48)
  else if 'a' ≤ c ∧ c ≤ 'f' then some (c.toNat - 87)
  else if 'A' ≤ c ∧ c ≤ 'F' then some (c.toNat - 55)
  else none

/-- Where the reader of an array stands. -/
inductive ArrayState where
  /-- Before the opening bracket. -/
  | start
  /-- After the opening bracket: a string or the closing bracket comes. -/
  | opened
  /-- After a comma: a string comes. -/
  | expectString
  /-- Inside a string, with its characters so far in reverse. -/
  | inString (acc : List Char)
  /-- After a backslash inside a string. -/
  | escape (acc : List Char)
  /-- Inside a \u escape: the leading surrogate before it, if any, the digits read and their
  value. -/
  | hex (acc : List Char) (lead : Option Nat) (digits value : Nat)
  /-- After a leading surrogate: the backslash of the trailing one comes. -/
  | trailSlash (acc : List Char) (lead : Nat)
  /-- After that backslash: the u comes. -/
  | trailU (acc : List Char) (lead : Nat)
  /-- After a string: a comma or the closing bracket comes. -/
  | afterString
  /-- After the closing bracket: only whitespace may follow. -/
  | closed

/-- The character of a simple escape. -/
def simpleEscape? (c : Char) : Option Char :=
  if c = '"' then some '"'
  else if c = '\\' then some '\\'
  else if c = '/' then some '/'
  else if c = 'b' then some (Char.ofNat 8)
  else if c = 'f' then some (Char.ofNat 12)
  else if c = 'n' then some '\n'
  else if c = 'r' then some '\r'
  else if c = 't' then some '\t'
  else none

/-- Whether a code unit is a leading surrogate. -/
def isLead (u : Nat) : Bool := 0xD800 ≤ u && u ≤ 0xDBFF

/-- Whether a code unit is a trailing surrogate. -/
def isTrail (u : Nat) : Bool := 0xDC00 ≤ u && u ≤ 0xDFFF

/-- The state after the fourth digit of a \u escape with the given value. -/
def finishEscape (acc : List Char) : Option Nat → Nat → Option ArrayState
  | none, u =>
    if isLead u then some (.trailSlash acc u)
    else if isTrail u then none
    else some (.inString (Char.ofNat u :: acc))
  | some lead, u =>
    if isTrail u then
      some (.inString (Char.ofNat (0x10000 + (lead - 0xD800) * 0x400 + (u - 0xDC00)) :: acc))
    else none

/-- One step of the reader on one character, with the strings read so far in reverse; none
refuses the text. -/
def step (done : List String) (c : Char) : ArrayState → Option (List String × ArrayState)
  | .start =>
    if isJsonSpace c then some (done, .start)
    else if c = '[' then some (done, .opened) else none
  | .opened =>
    if isJsonSpace c then some (done, .opened)
    else if c = ']' then some (done, .closed)
    else if c = '"' then some (done, .inString []) else none
  | .expectString =>
    if isJsonSpace c then some (done, .expectString)
    else if c = '"' then some (done, .inString []) else none
  | .inString acc =>
    if c = '"' then some (String.ofList acc.reverse :: done, .afterString)
    else if c = '\\' then some (done, .escape acc)
    else if c.toNat < 32 then none
    else some (done, .inString (c :: acc))
  | .escape acc =>
    if c = 'u' then some (done, .hex acc none 0 0)
    else (simpleEscape? c).map fun x => (done, .inString (x :: acc))
  | .hex acc lead digits value =>
    match hexValue? c with
    | none => none
    | some d =>
      if digits = 3 then (finishEscape acc lead (value * 16 + d)).map fun s => (done, s)
      else some (done, .hex acc lead (digits + 1) (value * 16 + d))
  | .trailSlash acc lead => if c = '\\' then some (done, .trailU acc lead) else none
  | .trailU acc lead => if c = 'u' then some (done, .hex acc (some lead) 0 0) else none
  | .afterString =>
    if isJsonSpace c then some (done, .afterString)
    else if c = ',' then some (done, .expectString)
    else if c = ']' then some (done, .closed) else none
  | .closed => if isJsonSpace c then some (done, .closed) else none

/-- Runs the reader over the characters; the text is accepted when it ends after the array. -/
def readFrom (done : List String) (state : ArrayState) : List Char → Option (List String)
  | [] =>
    match state with
    | .closed => some done.reverse
    | _ => none
  | c :: cs =>
    match step done c state with
    | some (done', state') => readFrom done' state' cs
    | none => none

/-- Reads the JSON text of an array of strings. -/
def readStrings (s : String) : Option (List String) := readFrom [] .start s.toList

end RoleSync.Text.Json
