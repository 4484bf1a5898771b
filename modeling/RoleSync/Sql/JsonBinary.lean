import RoleSync.Sql.Json
/-!
The binary form of JSON, which a blob argument of the JSON functions may hold.

Each element is a header and a payload. The low four bits of the header's first byte give the
element's type; the high four give the payload's size, or for 12 to 15 say that the size follows
in the next 1, 2, 4 or 8 bytes, big-endian. Scalars hold their text: integers and doubles in
JSON or JSON5 form, and strings either as they stand, with JSON escapes, with JSON5 escapes, or
raw. Arrays hold their items one after another, and objects their keys and values in turn.

A blob is taken as JSON in this form when its first element's header is well formed and
covers exactly the whole blob; otherwise a JSON function reads the blob's bytes as text.
-/

namespace RoleSync.Sql.JsonBinary

set_option autoImplicit false

/-- The number of a big-endian run of bytes. -/
def bigEndian (bs : List UInt8) : Nat := bs.foldl (fun acc b => 256 * acc + b.toNat) 0

/-- The header of the element at the front of some bytes: its type, the length of the header
and the size of the payload; none when the header does not fit or the payload would run past
the bytes. -/
def header? (bs : List UInt8) : Option (Nat × Nat × Nat) :=
  match bs with
  | [] => none
  | b :: rest =>
    let kind := b.toNat % 16
    let code := b.toNat / 16
    let sized : Option (Nat × Nat) :=
      if code ≤ 11 then some (1, code)
      else if code = 12 then (if 1 ≤ rest.length then some (2, bigEndian (rest.take 1)) else none)
      else if code = 13 then (if 2 ≤ rest.length then some (3, bigEndian (rest.take 2)) else none)
      else if code = 14 then (if 4 ≤ rest.length then some (5, bigEndian (rest.take 4)) else none)
      else if 8 ≤ rest.length && (rest.take 4).all (· = 0) then some (9, bigEndian ((rest.drop 4).take 4))
      else none
    match sized with
    | some (n, size) => if n + size ≤ bs.length then some (kind, n, size) else none
    | none => none

/-- Splits the element at the front of some bytes: its type, its payload and the bytes after. -/
def element? (bs : List UInt8) : Option (Nat × List UInt8 × List UInt8) :=
  (header? bs).map fun (kind, n, size) => (kind, (bs.drop n).take size, bs.drop (n + size))

/-- The characters of bytes, each taken as the character of its value. -/
def chars (bs : List UInt8) : List Char := bs.map fun b => Char.ofNat b.toNat

/-- Whether a payload is an integer in JSON form: an optional minus sign, then digits. -/
def isIntegerText (cs : List Char) : Bool :=
  match cs with
  | '-' :: rest => !rest.isEmpty && rest.all isDigit
  | _ => !cs.isEmpty && cs.all isDigit

/-- Whether a payload is an integer in hexadecimal: an optional minus sign, 0x, then hexadecimal
digits. -/
def isHexText (cs : List Char) : Bool :=
  let body := match cs with
    | '-' :: rest => rest
    | _ => cs
  match body with
  | '0' :: x :: rest => (x = 'x' || x = 'X') && rest.all JsonValue.isHexDigit
  | _ => false

/-- Whether a payload is a double in JSON form, or in JSON5 form with the flag: digits with at
most one point and at most one exponent, and at least one of them. -/
def isRealText (json5 : Bool) (cs : List Char) : Bool :=
  let body := match cs with
    | '-' :: rest => rest
    | _ => cs
  let whole := body.takeWhile isDigit
  let rest := body.drop whole.length
  let (fraction, rest) : List Char × List Char := match rest with
    | '.' :: r => let ds := r.takeWhile isDigit; ('.' :: ds, r.drop ds.length)
    | _ => ([], rest)
  let exponentOk : Bool := match rest with
    | e :: r =>
      if e = 'e' || e = 'E' then
        let r := match r with
          | '+' :: q => q
          | '-' :: q => q
          | _ => r
        !r.isEmpty && r.all isDigit
      else false
    | [] => true
  let marked := !fraction.isEmpty || !rest.isEmpty
  let digitsOk :=
    if json5 then !whole.isEmpty || 2 ≤ fraction.length
    else !whole.isEmpty && fraction.length ≠ 1 && !(1 < whole.length && whole.head? == some '0')
  marked && exponentOk && digitsOk

/-- The canonical text of a JSON5 double: a zero goes before a bare leading point and after a
bare trailing one. -/
def realText5 (cs : List Char) : String :=
  let (sign, body) : List Char × List Char := match cs with
    | '-' :: rest => (['-'], rest)
    | _ => ([], cs)
  let body := if body.head? == some '.' then '0' :: body else body
  let rec fix : List Char → List Char
    | '.' :: c :: rest => if isDigit c then '.' :: c :: fix rest else '.' :: '0' :: fix (c :: rest)
    | ['.'] => ['.', '0']
    | c :: rest => c :: fix rest
    | [] => []
  String.ofList (sign ++ fix body)

/-- The canonical text of a hexadecimal integer payload. -/
def hexText (cs : List Char) : String :=
  match cs with
  | '-' :: rest => "-" ++ JsonValue.hexToDecimal (rest.drop 2)
  | _ => JsonValue.hexToDecimal (cs.drop 2)

/-- The escaped text of a string payload with JSON5 escapes, in canonical form. -/
def text5 : List Char → Option (List Char)
  | [] => some []
  | '"' :: rest => (text5 rest).map ('\\' :: '"' :: ·)
  | '\\' :: 'x' :: a :: b :: rest =>
    if JsonValue.isHexDigit a && JsonValue.isHexDigit b then (text5 rest).map ("\\u00".toList ++ [a, b] ++ ·)
    else none
  | '\\' :: 'u' :: a :: b :: d :: e :: rest =>
    if [a, b, d, e].all JsonValue.isHexDigit then (text5 rest).map (['\\', 'u', a, b, d, e] ++ ·) else none
  | '\\' :: '\r' :: '\n' :: rest => text5 rest
  | '\\' :: c :: rest =>
    if "\"\\/bfnrt".toList.contains c then (text5 rest).map (['\\', c] ++ ·)
    else if c = Char.ofNat 39 then (text5 rest).map (c :: ·)
    else if c = 'v' then (text5 rest).map ("\\u0009".toList ++ ·)
    else if c = '0' then (text5 rest).map ("\\u0000".toList ++ ·)
    else if c = '\n' || c = '\r' || c.toNat = 0x2028 || c.toNat = 0x2029 then text5 rest
    else none
  | c :: rest =>
    if c.toNat < 0x20 then (text5 rest).map ((JsonValue.escape c.toString).toList ++ ·)
    else (text5 rest).map (c :: ·)

/-- Whether a string payload with JSON escapes is well formed: standard escapes only, and no
quote or control character standing in it. -/
def isTextJ : List Char → Bool
  | [] => true
  | '\\' :: 'u' :: a :: b :: d :: e :: rest => [a, b, d, e].all JsonValue.isHexDigit && isTextJ rest
  | '\\' :: c :: rest => "\"\\/bfnrt".toList.contains c && isTextJ rest
  | c :: rest => c ≠ '"' && c ≠ '\\' && 0x20 ≤ c.toNat && isTextJ rest

/-- The text of a payload's bytes, read as UTF-8. -/
def utf8 (bs : List UInt8) : List Char := (bytesText bs).toList

mutual

/-- Decodes an element that fills some bytes exactly, within a number of steps; none when it
is not well formed. -/
def decode : Nat → List UInt8 → Option JsonValue
  | 0, _ => none
  | n + 1, bs =>
    match element? bs with
    | some (kind, payload, []) => decodeAt n kind payload
    | _ => none

/-- Decodes the payload of an element of a type. -/
def decodeAt : Nat → Nat → List UInt8 → Option JsonValue
  | 0, _, _ => none
  | n + 1, kind, payload =>
    let cs := chars payload
    match kind with
    | 0 => if payload.isEmpty then some .null else none
    | 1 => if payload.isEmpty then some (.bool true) else none
    | 2 => if payload.isEmpty then some (.bool false) else none
    | 3 => if isIntegerText cs then some (.number (String.ofList cs)) else none
    | 4 => if isHexText cs then some (.number (hexText cs)) else none
    | 5 => if isRealText false cs then some (.number (String.ofList cs)) else none
    | 6 => if isRealText true cs then some (.number (realText5 cs)) else none
    | 7 =>
      let t := utf8 payload
      if t.all fun c => c ≠ '"' && c ≠ '\\' && 0x20 ≤ c.toNat then some (.string (String.ofList t))
      else none
    | 8 => let t := utf8 payload; if isTextJ t then some (.string (String.ofList t)) else none
    | 9 => (text5 (utf8 payload)).map fun t => .string (String.ofList t)
    | 10 => some (.string (JsonValue.escape (bytesText payload)))
    | 11 => (decodeItems n payload).map .array
    | 12 => (decodeMembers n payload).map .object
    | _ => none

/-- Decodes the items of an array's payload. -/
def decodeItems : Nat → List UInt8 → Option (List JsonValue)
  | 0, _ => none
  | _ + 1, [] => some []
  | n + 1, bs =>
    match element? bs with
    | some (kind, payload, rest) =>
      match decodeAt n kind payload, decodeItems n rest with
      | some v, some vs => some (v :: vs)
      | _, _ => none
    | none => none

/-- Decodes the keys and values of an object's payload; every key is a string. -/
def decodeMembers : Nat → List UInt8 → Option (List (String × JsonValue))
  | 0, _ => none
  | _ + 1, [] => some []
  | n + 1, bs =>
    match element? bs with
    | some (keyKind, keyPayload, rest) =>
      if keyKind < 7 || 10 < keyKind then none
      else
        match decodeAt n keyKind keyPayload, element? rest with
        | some (.string k), some (kind, payload, more) =>
          match decodeAt n kind payload, decodeMembers n more with
          | some v, some ms => some ((k, v) :: ms)
          | _, _ => none
        | _, _ => none
    | none => none

end

/-- Whether a blob is taken as JSON in binary form: its first element's header is well formed
and covers the whole blob, a null, true or false has no payload, and a short element whose first
byte could begin JSON text is also well formed throughout. -/
def isBinary (bs : List UInt8) : Bool :=
  match bs, header? bs with
  | b :: _, some (kind, n, size) =>
    let c := Char.ofNat b.toNat
    kind ≤ 12 && n + size = bs.length && (2 < kind || size = 0) &&
      (7 < size || (c ≠ '\x7b' && c ≠ '[' && !isDigit c) || (decode (2 * bs.length + 4) bs).isSome)
  | _, _ => false

/-- The JSON value a binary blob holds, none when it is not well formed. Each element takes at
least one byte and each step of decoding at most two, so twice the length bounds the steps. -/
def decode? (bs : List UInt8) : Option JsonValue := decode (2 * bs.length + 4) bs

end RoleSync.Sql.JsonBinary
