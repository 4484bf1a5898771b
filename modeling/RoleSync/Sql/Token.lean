import RoleSync.Sql.Value
/-!
The tokens of SQL text. Blanks and comments (from `--` to the end of the line, and between
`/*` and `*/`) separate tokens and are dropped. A token remembers where it starts and ends,
both in characters and in UTF-8 bytes, so that an error can say where it arose and a result
column can be named by the text of its expression.

Names are bare words (letters, digits, `_`, `$` and every character beyond ASCII, not starting
with a digit or `$`) or quoted with double quotes, brackets or backquotes. Strings are quoted
with apostrophes, a doubled quote standing for one. Blobs are `X'…'` with an even number of hex
digits. A text that starts no token is refused as unrecognized.
-/

namespace RoleSync.Sql

set_option autoImplicit false

/-- A token of SQL text. -/
inductive Token where
  /-- A bare word: a keyword or a name. -/
  | word (text : String)
  /-- A quoted name; double quotes make it eligible to stand for a string. -/
  | quoted (text : String) (doubleQuoted : Bool)
  /-- A string literal. -/
  | string (text : String)
  /-- A number literal, as written. -/
  | number (text : String)
  /-- A blob literal. -/
  | blob (bytes : List UInt8)
  /-- A parameter: `?`, `?N`, `:name`, `@name` or `$name`, as written. -/
  | parameter (text : String)
  /-- An operator or punctuation. -/
  | symbol (text : String)
  deriving Inhabited

/-- A token with where it stands in the text. -/
structure Lexeme where
  token : Token
  /-- The index of its first character. -/
  start : Nat
  /-- The index just after its last character. -/
  stop : Nat
  /-- The UTF-8 byte offset of its first character. -/
  offset : Nat
  deriving Inhabited

/-- Why text could not be split into tokens: the unrecognized text and its byte offset. -/
structure Unrecognized where
  text : String
  offset : Nat

/-- Whether a character may continue a bare word. -/
def isWordChar (c : Char) : Bool :=
  c.isAlphanum || c = '_' || c = '$' || 128 ≤ c.toNat

/-- Whether a character may start a bare word. -/
def isWordStart (c : Char) : Bool := c.isAlpha || c = '_' || 128 ≤ c.toNat

/-- Whether a character is a hexadecimal digit. -/
def isHexDigit (c : Char) : Bool :=
  isDigit c || ('a' ≤ c && c ≤ 'f') || ('A' ≤ c && c ≤ 'F')

/-- The value of a hexadecimal digit. -/
def hexDigitValue (c : Char) : Nat :=
  if isDigit c then c.toNat - 48 else if 'a' ≤ c && c ≤ 'f' then c.toNat - 87 else c.toNat - 55

/-- Whether a character separates tokens. -/
def isSpaceChar (c : Char) : Bool :=
  c = ' ' || c = '\t' || c = '\n' || c = '\r' || c.toNat = 12

/-- Reads the body of a quoted text after its opening quote, a doubled quote standing for one;
answers the text and how many characters were taken, closing quote included. -/
def quotedBody (q : Char) : List Char → Option (List Char × Nat)
  | [] => none
  | c :: rest =>
    if c = q then
      match rest with
      | d :: more =>
        if d = q then (quotedBody q more).map fun (t, n) => (q :: t, n + 2)
        else some ([], 1)
      | [] => some ([], 1)
    else (quotedBody q rest).map fun (t, n) => (c :: t, n + 1)

/-- How many characters a number literal takes: hex digits after 0x, or digits with an optional
fraction and exponent. -/
def numberLength (cs : List Char) : Nat :=
  match cs with
  | '0' :: x :: h :: _ =>
    if (x = 'x' || x = 'X') && isHexDigit h then 2 + ((cs.drop 2).takeWhile isHexDigit).length
    else decimalLength cs
  | _ => decimalLength cs
where
  /-- Digits, an optional fraction, and an exponent when digits follow its mark. -/
  decimalLength (cs : List Char) : Nat :=
    let whole := (cs.takeWhile isDigit).length
    let rest := cs.drop whole
    let frac := match rest with
      | '.' :: r => 1 + (r.takeWhile isDigit).length
      | _ => 0
    let rest := cs.drop (whole + frac)
    let expo := match rest with
      | e :: r =>
        if e = 'e' || e = 'E' then
          match r with
          | s :: d :: _ =>
            if (s = '+' || s = '-') && isDigit d then 2 + ((r.drop 1).takeWhile isDigit).length
            else if isDigit s then 1 + (r.takeWhile isDigit).length
            else 0
          | [s] => if isDigit s then 2 else 0
          | [] => 0
        else 0
      | [] => 0
    whole + frac + expo

/-- The byte length of a list of characters in UTF-8. -/
def utf8Length (cs : List Char) : Nat := cs.foldl (fun n c => n + c.utf8Size) 0

/-- What one token takes from the front of the text: the token, or none for a blank or a
comment, and how many characters it spans; an error for text that starts no token. -/
def nextToken (cs : List Char) : Except Nat (Option Token × Nat) :=
  match cs with
  | [] => .ok (none, 0)
  | c :: rest =>
    if isSpaceChar c then .ok (none, 1 + (rest.takeWhile isSpaceChar).length)
    else if c = '-' && rest.head? = some '-' then
      .ok (none, 2 + (rest.drop 1 |>.takeWhile (· ≠ '\n')).length)
    else if c = '/' && rest.head? = some '*' then
      let body := rest.drop 1
      let inner := commentLength body
      .ok (none, 2 + inner)
    else if c = '\'' then
      match quotedBody '\'' rest with
      | some (t, n) => .ok (some (.string (String.ofList t)), 1 + n)
      | none => .error (1 + rest.length)
    else if c = '"' || c = '`' then
      match quotedBody c rest with
      | some (t, n) => .ok (some (.quoted (String.ofList t) (c = '"')), 1 + n)
      | none => .error (1 + rest.length)
    else if c = '[' then
      let body := rest.takeWhile (· ≠ ']')
      if body.length < rest.length then
        .ok (some (.quoted (String.ofList body) false), 2 + body.length)
      else .error (1 + rest.length)
    else if (c = 'x' || c = 'X') && rest.head? = some '\'' then
      let body := (rest.drop 1).takeWhile isHexDigit
      match rest.drop (1 + body.length) with
      | '\'' :: _ =>
        if body.length % 2 = 0 then
          .ok (some (.blob (pairs body)), 3 + body.length)
        else .error (3 + body.length)
      | _ => .error (2 + ((rest.drop 1).takeWhile (· ≠ '\'')).length)
    else if isDigit c || (c = '.' && (rest.head?.map isDigit).getD false) then
      let n := numberLength cs
      if (cs.drop n |>.head?.map isWordChar).getD false then
        .error (n + ((cs.drop n).takeWhile isWordChar).length)
      else .ok (some (.number (String.ofList (cs.take n))), n)
    else if isWordStart c then
      let n := 1 + (rest.takeWhile isWordChar).length
      .ok (some (.word (String.ofList (cs.take n))), n)
    else if c = '?' then
      let n := 1 + (rest.takeWhile isDigit).length
      .ok (some (.parameter (String.ofList (cs.take n))), n)
    else if c = ':' || c = '@' || c = '$' then
      let n := 1 + (rest.takeWhile isWordChar).length
      if n = 1 then .error 1 else .ok (some (.parameter (String.ofList (cs.take n))), n)
    else
      match c, rest with
      | '=', '=' :: _ => .ok (some (.symbol "=="), 2)
      | '<', '=' :: _ => .ok (some (.symbol "<="), 2)
      | '<', '>' :: _ => .ok (some (.symbol "<>"), 2)
      | '<', '<' :: _ => .ok (some (.symbol "<<"), 2)
      | '>', '=' :: _ => .ok (some (.symbol ">="), 2)
      | '>', '>' :: _ => .ok (some (.symbol ">>"), 2)
      | '!', '=' :: _ => .ok (some (.symbol "!="), 2)
      | '|', '|' :: _ => .ok (some (.symbol "||"), 2)
      | '-', '>' :: '>' :: _ => .ok (some (.symbol "->>"), 3)
      | '-', '>' :: _ => .ok (some (.symbol "->"), 2)
      | _, _ =>
        if "(),;+-*/%=<>&|~.".toList.contains c then .ok (some (.symbol (String.singleton c)), 1)
        else .error 1
where
  /-- The length of a block comment's body with its closing mark, or all of the text when the
  comment is not closed. -/
  commentLength : List Char → Nat
    | '*' :: '/' :: _ => 2
    | _ :: more => 1 + commentLength more
    | [] => 0
  /-- The bytes of pairs of hex digits. -/
  pairs : List Char → List UInt8
    | a :: b :: more => (hexDigitValue a * 16 + hexDigitValue b).toUInt8 :: pairs more
    | _ => []

/-- Splits text into tokens, from a character index and byte offset on, up to the first text
that starts no token, which is returned beside them. -/
def tokensFrom (cs : List Char) (index offset : Nat) :
    Nat → List Lexeme × Option Unrecognized
  | 0 => ([], none)
  | fuel + 1 =>
    match cs with
    | [] => ([], none)
    | _ =>
      match nextToken cs with
      | .error n => ([], some ⟨String.ofList (cs.take n), offset⟩)
      | .ok (tok, n) =>
        let n := max n 1
        let bytes := utf8Length (cs.take n)
        let (more, bad) := tokensFrom (cs.drop n) (index + n) (offset + bytes) fuel
        match tok with
        | some t => (⟨t, index, index + n, offset⟩ :: more, bad)
        | none => (more, bad)

/-- Splits SQL text, given by its characters, into its tokens, up to the first text that starts
no token. -/
def tokenize (text : List Char) : List Lexeme × Option Unrecognized :=
  tokensFrom text 0 0 (text.length + 1)

end RoleSync.Sql
