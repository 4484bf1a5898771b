import RoleSync.Toml.Value
/-!
TOML scalars: strings of the four kinds, and the bare tokens that are booleans, integers, floats
and date-times. A string reader starts after the opening delimiter and returns the text with the
characters after the closing one.

Integers may be written in decimal (with an optional sign, no leading zero), hexadecimal, octal
or binary; an underscore must stand between two digits. A float needs a fraction or an exponent,
or is inf or nan with an optional sign, and must stay within the range of a double. Date-times
follow RFC 3339, where the seconds may be left out and a space may stand for the T. Strings
know the escapes \b \t \n \f \r \e \" \\ and \xHH, \uHHHH, \UHHHHHHHH.
-/

namespace RoleSync.Toml

set_option autoImplicit false

/-- Whether a character is an ASCII digit. -/
def isDigit (c : Char) : Bool := '0' ≤ c && c ≤ '9'

/-- Whether a character is a hexadecimal digit. -/
def isHexDigit (c : Char) : Bool := isDigit c || ('a' ≤ c && c ≤ 'f') || ('A' ≤ c && c ≤ 'F')

/-- The value of a hexadecimal digit. -/
def hexValue (c : Char) : Nat :=
  if isDigit c then c.toNat - 48 else if 'a' ≤ c && c ≤ 'f' then c.toNat - 87 else c.toNat - 55

/-- Whether a character may appear in a bare key. -/
def isBareKeyChar (c : Char) : Bool :=
  ('a' ≤ c && c ≤ 'z') || ('A' ≤ c && c ≤ 'Z') || isDigit c || c = '_' || c = '-'

/-- Whether a character is a control character that TOML text may not hold (tab apart). -/
def isForbiddenControl (c : Char) : Bool := (c.toNat < 0x20 && c ≠ '\t') || c.toNat = 0x7F

/-- Whether a character is blank inside a line. -/
def isSpace (c : Char) : Bool := c = ' ' || c = '\t'

/-- The value of some hexadecimal digits. -/
def hexNumber (ds : List Char) : Nat := ds.foldl (fun n d => n * 16 + hexValue d) 0

/-- The character of a \x, \u or \U escape, if its digits name a Unicode scalar value. -/
def escapeChar? (ds : List Char) : Option Char :=
  if ds.all isHexDigit then
    let n := hexNumber ds
    if n < 0xD800 || (0xDFFF < n && n ≤ 0x10FFFF) then some (Char.ofNat n) else none
  else none

/-- The character of a one-letter escape. -/
def simpleEscape? (c : Char) : Option Char :=
  if c = 'b' then some (Char.ofNat 8)
  else if c = 'e' then some (Char.ofNat 27)
  else if c = 't' then some '\t'
  else if c = 'n' then some '\n'
  else if c = 'f' then some (Char.ofNat 12)
  else if c = 'r' then some '\r'
  else if c = '"' then some '"'
  else if c = '\\' then some '\\'
  else none

/-- Reads the rest of a basic string: escapes are resolved, and the string may not span lines. -/
def basicString (acc : List Char) : List Char → Option (String × List Char)
  | [] => none
  | '"' :: rest => some (String.ofList acc.reverse, rest)
  | '\\' :: 'x' :: a :: b :: rest =>
    match escapeChar? [a, b] with
    | some x => basicString (x :: acc) rest
    | none => none
  | '\\' :: 'u' :: a :: b :: c :: d :: rest =>
    match escapeChar? [a, b, c, d] with
    | some x => basicString (x :: acc) rest
    | none => none
  | '\\' :: 'U' :: a :: b :: c :: d :: e :: f :: g :: h :: rest =>
    match escapeChar? [a, b, c, d, e, f, g, h] with
    | some x => basicString (x :: acc) rest
    | none => none
  | '\\' :: e :: rest =>
    match simpleEscape? e with
    | some x => basicString (x :: acc) rest
    | none => none
  | c :: rest => if isForbiddenControl c then none else basicString (c :: acc) rest

/-- Reads the rest of a literal string: no escapes, one line. -/
def literalString (acc : List Char) : List Char → Option (String × List Char)
  | [] => none
  | '\'' :: rest => some (String.ofList acc.reverse, rest)
  | c :: rest => if isForbiddenControl c then none else literalString (c :: acc) rest

/-- Drops one newline at the front, as after the opening of a multi-line string. -/
def dropOpeningNewline : List Char → List Char
  | '\n' :: rest => rest
  | '\r' :: '\n' :: rest => rest
  | cs => cs

/-- Where the reader of a multi-line string stands. -/
inductive LongState where
  /-- Inside the text, with the number of quotes just read. -/
  | text (quotes : Nat)
  /-- After a backslash that ends a line: blanks and newlines are skipped, and one newline
  must come before the text goes on. -/
  | trim (sawNewline : Bool)

/-- Reads the rest of a multi-line string closed by three of the quote character; up to two
more quotes right before the close belong to the text, and line ends are kept as written.
Escapes are resolved when the quote is the double quote. -/
def longString (q : Char) (escapes : Bool) (acc : List Char) :
    LongState → List Char → Option (String × List Char)
  | .text n, [] =>
    if 3 ≤ n && n ≤ 5 then some (String.ofList (acc.drop 3).reverse, []) else none
  | .text n, c :: rest =>
    if c = q then longString q escapes (c :: acc) (.text (n + 1)) rest
    else if 3 ≤ n then
      if n ≤ 5 then some (String.ofList (acc.drop 3).reverse, c :: rest) else none
    else if escapes && c = '\\' then
      match rest with
      | 'x' :: a :: b :: more =>
        match escapeChar? [a, b] with
        | some x => longString q escapes (x :: acc) (.text 0) more
        | none => none
      | 'u' :: a :: b :: c2 :: d :: more =>
        match escapeChar? [a, b, c2, d] with
        | some x => longString q escapes (x :: acc) (.text 0) more
        | none => none
      | 'U' :: a :: b :: c2 :: d :: e :: f :: g :: h :: more =>
        match escapeChar? [a, b, c2, d, e, f, g, h] with
        | some x => longString q escapes (x :: acc) (.text 0) more
        | none => none
      | e :: more =>
        if isSpace e || e = '\n' || e = '\r' then longString q escapes acc (.trim false) (e :: more)
        else
          match simpleEscape? e with
          | some x => longString q escapes (x :: acc) (.text 0) more
          | none => none
      | [] => none
    else if c = '\r' then
      match rest with
      | '\n' :: more => longString q escapes ('\n' :: '\r' :: acc) (.text 0) more
      | _ => none
    else if c = '\n' then longString q escapes (c :: acc) (.text 0) rest
    else if isForbiddenControl c then none
    else longString q escapes (c :: acc) (.text 0) rest
  | .trim saw, [] => if saw then longString q escapes acc (.text 0) [] else none
  | .trim saw, c :: rest =>
    if isSpace c then longString q escapes acc (.trim saw) rest
    else if c = '\n' then longString q escapes acc (.trim true) rest
    else if c = '\r' then
      match rest with
      | '\n' :: more => longString q escapes acc (.trim true) more
      | _ => none
    else if saw then longString q escapes acc (.text 0) (c :: rest)
    else none
termination_by st cs => (cs.length, match st with | .trim _ => 1 | .text _ => 0)

/-! ## Bare tokens -/

/-- Digits with single underscores between them, in a digit class. -/
def digitsWithUnderscores (ok : Char → Bool) : List Char → Bool
  | [] => false
  | [c] => ok c
  | c :: '_' :: rest => ok c && digitsWithUnderscores ok rest
  | c :: rest => ok c && digitsWithUnderscores ok rest

/-- The digits of a group with its underscores removed. -/
def withoutUnderscores (cs : List Char) : List Char := cs.filter (· ≠ '_')

/-- The value of decimal digits. -/
def decimalValue (cs : List Char) : Nat := cs.foldl (fun n d => n * 10 + (d.toNat - 48)) 0

/-- The value of digits in a base. -/
def baseValue (base : Nat) (cs : List Char) : Nat := cs.foldl (fun n d => n * base + hexValue d) 0

/-- Whether a digit group is an unsigned decimal integer without a leading zero. -/
def isDecimalBody (cs : List Char) : Bool :=
  match cs with
  | ['0'] => true
  | '0' :: _ => false
  | _ => digitsWithUnderscores isDigit cs

/-- Reads an integer token. -/
def integer? (cs : List Char) : Option Int :=
  match cs with
  | '0' :: 'x' :: ds =>
    if digitsWithUnderscores isHexDigit ds then some (baseValue 16 (withoutUnderscores ds)) else none
  | '0' :: 'o' :: ds =>
    if digitsWithUnderscores (fun c => '0' ≤ c && c ≤ '7') ds then
      some (baseValue 8 (withoutUnderscores ds)) else none
  | '0' :: 'b' :: ds =>
    if digitsWithUnderscores (fun c => c = '0' || c = '1') ds then
      some (baseValue 2 (withoutUnderscores ds)) else none
  | '+' :: ds => if isDecimalBody ds then some (decimalValue (withoutUnderscores ds)) else none
  | '-' :: ds => if isDecimalBody ds then some (-(decimalValue (withoutUnderscores ds) : Int)) else none
  | ds => if isDecimalBody ds then some (decimalValue (withoutUnderscores ds)) else none

/-- Splits a list at the first character that passes a test. -/
def splitAtFirst (p : Char → Bool) : List Char → List Char × List Char
  | [] => ([], [])
  | c :: cs =>
    if p c then ([], c :: cs)
    else
      let r := splitAtFirst p cs
      (c :: r.1, r.2)

/-- Whether a token is a float. -/
def isFloat (cs : List Char) : Bool :=
  let unsigned := match cs with
    | '+' :: r => r
    | '-' :: r => r
    | r => r
  if unsigned = ['i', 'n', 'f'] || unsigned = ['n', 'a', 'n'] then true
  else
    let (intPart, afterInt) := splitAtFirst (fun c => c = '.' || c = 'e' || c = 'E') unsigned
    let exponentOk (e : List Char) : Bool :=
      match e with
      | '+' :: ds => digitsWithUnderscores isDigit ds
      | '-' :: ds => digitsWithUnderscores isDigit ds
      | ds => digitsWithUnderscores isDigit ds
    isDecimalBody intPart &&
    match afterInt with
    | '.' :: rest =>
      let (frac, afterFrac) := splitAtFirst (fun c => c = 'e' || c = 'E') rest
      digitsWithUnderscores isDigit frac &&
      match afterFrac with
      | [] => true
      | _ :: e => exponentOk e
    | 'e' :: e => exponentOk e
    | 'E' :: e => exponentOk e
    | _ => false

/-- The value of a group of exactly n decimal digits. -/
def fixedDigits? (n : Nat) (cs : List Char) : Option Nat :=
  if cs.length = n && cs.all isDigit then some (decimalValue cs) else none

/-- Whether a year is a leap year. -/
def isLeapYear (y : Nat) : Bool := (y % 4 = 0 && y % 100 ≠ 0) || y % 400 = 0

/-- The number of days of a month. -/
def daysInMonth (y m : Nat) : Nat :=
  if m = 2 then (if isLeapYear y then 29 else 28)
  else if m = 4 || m = 6 || m = 9 || m = 11 then 30 else 31

/-- Whether text is a full date YYYY-MM-DD. -/
def isFullDate (cs : List Char) : Bool :=
  match cs with
  | [y1, y2, y3, y4, '-', m1, m2, '-', d1, d2] =>
    match fixedDigits? 4 [y1, y2, y3, y4], fixedDigits? 2 [m1, m2], fixedDigits? 2 [d1, d2] with
    | some y, some m, some d => 1 ≤ m && m ≤ 12 && 1 ≤ d && d ≤ daysInMonth y m
    | _, _, _ => false
  | _ => false

/-- Whether text is a time HH:MM, or HH:MM:SS with an optional fraction. -/
def isPartialTime (cs : List Char) : Bool :=
  match cs with
  | [h1, h2, ':', m1, m2] =>
    match fixedDigits? 2 [h1, h2], fixedDigits? 2 [m1, m2] with
    | some h, some m => h ≤ 23 && m ≤ 59
    | _, _ => false
  | h1 :: h2 :: ':' :: m1 :: m2 :: ':' :: s1 :: s2 :: frac =>
    match fixedDigits? 2 [h1, h2], fixedDigits? 2 [m1, m2], fixedDigits? 2 [s1, s2] with
    | some h, some m, some s =>
      h ≤ 23 && m ≤ 59 && s ≤ 60 &&
      match frac with
      | [] => true
      | '.' :: ds => !ds.isEmpty && ds.all isDigit
      | _ => false
    | _, _, _ => false
  | _ => false

/-- Whether text is a time offset: Z or ±HH:MM. -/
def isOffset (cs : List Char) : Bool :=
  match cs with
  | ['Z'] => true
  | ['z'] => true
  | [sgn, h1, h2, ':', m1, m2] =>
    (sgn = '+' || sgn = '-') &&
    match fixedDigits? 2 [h1, h2], fixedDigits? 2 [m1, m2] with
    | some h, some m => h ≤ 23 && m ≤ 59
    | _, _ => false
  | _ => false

/-- Whether a time with an optional offset is well formed. -/
def isTimeWithOffset (cs : List Char) : Bool :=
  let (time, offset) := splitAtFirst (fun c => c = 'Z' || c = 'z' || c = '+' || c = '-') cs
  isPartialTime time && (offset.isEmpty || isOffset offset)

/-- Whether a token is a date-time, a date or a time. -/
def isDateTime (cs : List Char) : Bool :=
  if isFullDate cs then true
  else if isPartialTime cs then true
  else
    match cs.splitAt 10 with
    | (date, sep :: time) => isFullDate date && (sep = 'T' || sep = 't' || sep = ' ') &&
        isTimeWithOffset time
    | _ => false

/-- Whether a character may appear in a bare token. -/
def isTokenChar (c : Char) : Bool := isBareKeyChar c || c = '+' || c = '.' || c = ':'

/-- Reads a bare token; a date followed by a space and a time is one token. -/
def bareToken (cs : List Char) : List Char × List Char :=
  let (tok, rest) := (cs.takeWhile isTokenChar, cs.dropWhile isTokenChar)
  match rest with
  | ' ' :: a :: b :: ':' :: more =>
    if isFullDate tok && isDigit a && isDigit b then
      let (t2, rest2) := ((a :: b :: ':' :: more).takeWhile isTokenChar,
        (a :: b :: ':' :: more).dropWhile isTokenChar)
      (tok ++ ' ' :: t2, rest2)
    else (tok, rest)
  | _ => (tok, rest)

/-- Whether an integer can be held: the integers of 128 bits, signed or unsigned, from -2^127
below 2^128. -/
def isHeldInteger : Int → Bool
  | .ofNat n => n < 340282366920938463463374607431768211456
  | .negSucc n => n < 170141183460469231731687303715884105728

/-- The least magnitude that rounds to infinity as a double: halfway between the largest
finite double, (2 - 2^-52) * 2^1023, and 2^1024. -/
def overflowThreshold : Nat := Nat.pow 2 1024 - Nat.pow 2 970

/-- Whether a float token, other than inf and nan, is too large in magnitude for a double. Its
value is m * 10^e for the digits m and the exponent e; with k digits in m, the value is below
10^308 when k + e ≤ 308, at least 10^309 when k + e ≥ 310, and compared exactly otherwise. -/
def isFloatOverflow (cs : List Char) : Bool :=
  let unsigned := match cs with
    | '+' :: r => r
    | '-' :: r => r
    | r => r
  let clean := withoutUnderscores unsigned
  let (mantissa, afterMantissa) := splitAtFirst (fun c => c = 'e' || c = 'E') clean
  let (whole, fraction) := match splitAtFirst (· = '.') mantissa with
    | (w, _ :: f) => (w, f)
    | (w, []) => (w, [])
  let exponent : Int := match afterMantissa with
    | _ :: '-' :: ds => -(decimalValue ds : Int)
    | _ :: '+' :: ds => (decimalValue ds : Int)
    | _ :: ds => (decimalValue ds : Int)
    | [] => 0
  let digits := (whole ++ fraction).dropWhile (· = '0')
  let e := exponent - fraction.length
  let k := (digits.length : Int) + e
  if unsigned = ['i', 'n', 'f'] || unsigned = ['n', 'a', 'n'] then false
  else if digits.isEmpty || k ≤ 308 then false
  else if 310 ≤ k then true
  else
    let m := decimalValue digits
    match e with
    | .ofNat up => overflowThreshold ≤ m * Nat.pow 10 up
    | .negSucc down => overflowThreshold * Nat.pow 10 (down + 1) ≤ m

/-- The scalar a bare token stands for; an integer beyond 128 bits, and a float too large for
a double, are no value. -/
def scalar? (tok : List Char) : Option Value :=
  if tok = ['t', 'r', 'u', 'e'] then some (.boolean true)
  else if tok = ['f', 'a', 'l', 's', 'e'] then some (.boolean false)
  else
    match integer? tok with
    | some i => if isHeldInteger i then some (.integer i) else none
    | none =>
      if isFloat tok then
        if isFloatOverflow tok then none else some (.float (String.ofList tok))
      else if isDateTime tok then some (.datetime (String.ofList tok))
      else none

end RoleSync.Toml
