import RoleSync.Sql.Double
/-!
The values a database holds, and the conversions between them.

A value is NULL, a 64-bit integer, a double, a text or a blob. A column has an affinity, read
off its declared type, that converts what is stored in it: numeric affinities turn text that
reads as a number into that number, and text affinity turns numbers into their text. Values
compare in one total order: NULL first, then numbers by value, then texts by collation, then
blobs byte by byte.

Text reads as a number when, between optional blanks, it is an optional sign, digits with an
optional point, and an optional exponent. Such text is an integer when it has neither point nor
exponent and fits in 64 bits, and a double otherwise.
-/

namespace RoleSync.Sql

set_option autoImplicit false

/-- A value held by a database. -/
inductive Value where
  | null
  | integer (i : Int)
  | real (r : Float)
  | text (s : String)
  | blob (bytes : List UInt8)
  deriving Inhabited

/-- The affinity of a column: the kind of value it prefers to hold. Blob affinity converts
nothing. -/
inductive Affinity where
  | blob
  | text
  | numeric
  | integer
  | real
  deriving DecidableEq, Repr

/-- How texts are ordered: by code points, ignoring ASCII case, or ignoring trailing spaces. -/
inductive Collation where
  | binary
  | nocase
  | rtrim
  deriving DecidableEq, Repr

namespace Value

/-- The name of a value's storage class, as a typed read reports it. -/
def typeName : Value → String
  | .null => "Null"
  | .integer _ => "Integer"
  | .real _ => "Real"
  | .text _ => "Text"
  | .blob _ => "Blob"

/-- The name of a value's storage class, as the typeof function gives it. -/
def typeofName : Value → String
  | .null => "null"
  | .integer _ => "integer"
  | .real _ => "real"
  | .text _ => "text"
  | .blob _ => "blob"

/-- Whether a value is NULL. -/
def isNull : Value → Bool
  | .null => true
  | _ => false

end Value

/-- Whether a character is one of the ASCII blanks the database skips around numbers. -/
def isAsciiBlank (c : Char) : Bool :=
  c = ' ' || c = '\t' || c = '\n' || c = '\r' || c.toNat = 11 || c.toNat = 12

/-- Whether a character is an ASCII digit. -/
def isDigit (c : Char) : Bool := '0' ≤ c && c ≤ '9'

/-- The largest significand kept while reading a number; later digits only move the point. -/
def significandLimit : Nat := 1844674407370955160

/-- A number read from the front of a text: its sign, significand and power of ten, what it
was written with, and what follows it and the blanks after it. -/
structure Numeral where
  negative : Bool
  significand : Nat
  exponent : Int
  /-- How many digits stood in the integer part and the fraction. -/
  digitCount : Nat
  hasPoint : Bool
  hasExponent : Bool
  /-- Whether the exponent mark, if any, was followed by digits. -/
  exponentOk : Bool
  rest : List Char

/-- Whether a numeral is written without point and exponent. -/
def Numeral.isInteger (n : Numeral) : Bool := !n.hasPoint && !n.hasExponent

/-- Whether a numeral is the whole text: digits, a well-formed exponent, nothing after. -/
def Numeral.isWhole (n : Numeral) : Bool := n.rest.isEmpty && 0 < n.digitCount && n.exponentOk

/-- Reads digits into a significand: while it is below the limit a digit is added to it (and,
after the point, lowers the power of ten); beyond it an integer digit raises the power. -/
def readDigits (afterPoint : Bool) : Nat → Int → List Char → Nat × Int × Nat × List Char
  | s, e, c :: rest =>
    if isDigit c then
      let (s, e) :=
        if s < significandLimit then (s * 10 + (c.toNat - 48), if afterPoint then e - 1 else e)
        else (s, if afterPoint then e else e + 1)
      let (s, e, n, r) := readDigits afterPoint s e rest
      (s, e, n + 1, r)
    else (s, e, 0, c :: rest)
  | s, e, [] => (s, e, 0, [])

/-- Reads the longest number at the front of a text, after blanks. -/
def readNumeral (cs : List Char) : Numeral :=
  let cs := cs.dropWhile isAsciiBlank
  let (negative, cs) := match cs with
    | '-' :: r => (true, r)
    | '+' :: r => (false, r)
    | r => (false, r)
  let (s, e, n1, cs) := readDigits false 0 0 cs
  let (hasPoint, s, e, n2, cs) := match cs with
    | '.' :: r => let (s, e, n, r) := readDigits true s e r
                  (true, s, e, n, r)
    | r => (false, s, e, 0, r)
  let (hasExp, expOk, e, cs) := match cs with
    | m :: r =>
      if m = 'e' || m = 'E' then
        let (sign, r) : Int × List Char := match r with
          | '-' :: r => (-1, r)
          | '+' :: r => (1, r)
          | r => (1, r)
        let ds := r.takeWhile isDigit
        let value := ds.foldl (fun (v : Nat) (d : Char) => min (v * 10 + (d.toNat - 48)) 10000) 0
        (true, !ds.isEmpty, e + sign * (value : Int), r.dropWhile isDigit)
      else (false, true, e, m :: r)
    | [] => (false, true, e, [])
  { negative, significand := s, exponent := e, digitCount := n1 + n2, hasPoint,
    hasExponent := hasExp, exponentOk := expOk, rest := cs.dropWhile isAsciiBlank }

/-- The double a numeral stands for. -/
def Numeral.toReal (n : Numeral) : Float :=
  match n.exponent with
  | .ofNat k => Double.ofRatio n.negative (n.significand * Double.pow10 k) 1
  | .negSucc k => Double.ofRatio n.negative n.significand (Double.pow10 (k + 1))

/-- The exact integer of a text of digits, with its sign, when it fits in 64 bits. -/
def exactInteger? (cs : List Char) : Option Int :=
  let cs := (cs.dropWhile isAsciiBlank).reverse.dropWhile isAsciiBlank |>.reverse
  let (negative, ds) := match cs with
    | '-' :: r => (true, r)
    | '+' :: r => (false, r)
    | r => (false, r)
  if ds.isEmpty || !ds.all isDigit then none
  else
    let v : Nat := ds.foldl (fun v d => v * 10 + (d.toNat - 48)) 0
    let i : Int := if negative then -(v : Int) else v
    if Double.minInt ≤ i && i ≤ Double.maxInt then some i else none

/-- The number a whole text reads as, if it is one: an integer when written as one that fits
in 64 bits, otherwise a double; with the flag set, a double that is a whole number strictly
inside the 64-bit range becomes an integer. -/
def numberOfText? (s : String) (preferInteger : Bool) : Option Value :=
  let n := readNumeral s.toList
  if !n.isWhole then none
  else
    match (if n.isInteger then exactInteger? s.toList else none) with
    | some i => some (.integer i)
    | none =>
      let r := n.toReal
      if preferInteger then
        match Double.exactInt? r with
        | some i => some (.integer i)
        | none => some (.real r)
      else some (.real r)

/-- The text of a number. -/
def numberText : Value → String
  | .integer i => toString i
  | .real r => Double.render r
  | _ => ""

/-- Reads bytes as text, taking each byte as a character where they are not UTF-8. -/
def bytesText (bs : List UInt8) : String :=
  match String.fromUTF8? (ByteArray.mk bs.toArray) with
  | some s => s
  | none => String.ofList (bs.map fun b => Char.ofNat b.toNat)

/-- The UTF-8 bytes of a text. -/
def textBytes (s : String) : List UInt8 := s.toUTF8.toList

namespace Value

/-- The text of a value, as concatenation and text functions see it; NULL has none. -/
def asText? : Value → Option String
  | .null => none
  | .integer i => some (toString i)
  | .real r => some (Double.render r)
  | .text s => some s
  | .blob b => some (bytesText b)

/-- The integer written by the digits at the front of a text, after blanks and a sign, when it
fits in 64 bits; no digits at all stand for zero. -/
def leadingInteger? (cs : List Char) : Option Int :=
  let (neg, ds) := match cs.dropWhile isAsciiBlank with
    | '-' :: r => (true, r)
    | '+' :: r => (false, r)
    | r => (false, r)
  let v : Nat := (ds.takeWhile isDigit).foldl (fun v d => v * 10 + (d.toNat - 48)) 0
  let i : Int := if neg then -(v : Int) else v
  if Double.minInt ≤ i && i ≤ Double.maxInt then some i else none

/-- The number at the front of a text, as arithmetic reads it: a whole integer numeral that
fits is an integer; a numeral with a point or an exponent is a double; otherwise the integer
digits at the front are (zero when there are none), unless they overflow. -/
def numberAtFront (cs : List Char) : Value :=
  let n := readNumeral cs
  if n.isWhole then
    match (if n.isInteger then exactInteger? cs else none) with
    | some i => .integer i
    | none => .real n.toReal
  else if 0 < n.digitCount && (n.hasPoint || (n.hasExponent && n.exponentOk)) then
    .real n.toReal
  else
    match leadingInteger? cs with
    | some i => .integer i
    | none => .real n.toReal

/-- The number a value stands for in arithmetic: numbers as they are, text and blobs by the
number at their front. NULL stays NULL. -/
def toNumeric : Value → Value
  | .null => .null
  | .integer i => .integer i
  | .real r => .real r
  | .text s => numberAtFront s.toList
  | .blob b => numberAtFront (bytesText b).toList

/-- Whether a value counts as true: a non-zero number; text and blobs by the number at their
front. NULL is neither true nor false. -/
def truth? : Value → Option Bool
  | .null => none
  | .integer i => some (i != 0)
  | .real r => some (r != 0)
  | v => match v.toNumeric with
    | .integer i => some (i != 0)
    | .real r => some (r != 0)
    | _ => some false

/-- Converts a value for storage under an affinity. Numeric affinities read numbers out of text
(and keep whole doubles as integers, except real affinity, which keeps doubles); text affinity
writes numbers as text; blob affinity keeps everything. -/
def withAffinity : Affinity → Value → Value
  | .blob, v => v
  | .text, .integer i => .text (toString i)
  | .text, .real r => .text (Double.render r)
  | .text, v => v
  | .real, .integer i => .real (Double.ofInt i)
  | .real, .text s =>
    match numberOfText? s true with
    | some (.integer i) => .real (Double.ofInt i)
    | some v => v
    | none => .text s
  | .real, v => v
  | _, .text s => (numberOfText? s true).getD (.text s)
  | _, .real r =>
    match Double.exactInt? r with
    | some i => .integer i
    | none => .real r
  | _, v => v

/-- Converts a text operand of a comparison to a number when it reads as one, keeping doubles
as they are read. -/
def numericForComparison : Value → Value
  | .text s => (numberOfText? s false).getD (.text s)
  | v => v

/-- Converts a number operand of a comparison to its text. -/
def textForComparison : Value → Value
  | .integer i => .text (toString i)
  | .real r => .text (Double.render r)
  | v => v

end Value

/-- Folds ASCII capitals to lower case. -/
def foldAscii (s : String) : String := String.ofList (s.toList.map Char.toLower)

/-- Whether a piece of text occurs inside another. -/
def occursIn (piece : List Char) : List Char → Bool
  | [] => piece.isEmpty
  | c :: cs => piece.isPrefixOf (c :: cs) || occursIn piece cs

/-- Drops trailing spaces. -/
def dropTrailingSpaces (s : String) : String :=
  String.ofList (s.toList.reverse.dropWhile (· = ' ')).reverse

/-- Compares two texts under a collation. -/
def Collation.compare (c : Collation) (a b : String) : Ordering :=
  match c with
  | .binary => Ord.compare a b
  | .nocase => Ord.compare (foldAscii a) (foldAscii b)
  | .rtrim => Ord.compare (dropTrailingSpaces a) (dropTrailingSpaces b)

/-- The collation a name stands for, in any ASCII case. -/
def Collation.ofName? (name : String) : Option Collation :=
  match foldAscii name with
  | "binary" => some .binary
  | "nocase" => some .nocase
  | "rtrim" => some .rtrim
  | _ => none

/-- Compares two doubles, which are never NaN when held. -/
def compareReal (a b : Float) : Ordering :=
  if a < b then .lt else if b < a then .gt else .eq

/-- Compares byte strings: the first difference decides, and a prefix comes first. -/
def compareBytes : List UInt8 → List UInt8 → Ordering
  | [], [] => .eq
  | [], _ :: _ => .lt
  | _ :: _, [] => .gt
  | a :: as, b :: bs => if a < b then .lt else if b < a then .gt else compareBytes as bs

/-- The rank of a value's storage class in the order of values. -/
def Value.rank : Value → Nat
  | .null => 0
  | .integer _ => 1
  | .real _ => 1
  | .text _ => 2
  | .blob _ => 3

/-- Compares two values in the order of values, texts under a collation. -/
def Value.compareWith (c : Collation) : Value → Value → Ordering
  | .integer a, .integer b => Ord.compare a b
  | .integer a, .real b => Double.compareInt a b
  | .real a, .integer b => (Double.compareInt b a).swap
  | .real a, .real b => compareReal a b
  | .text a, .text b => c.compare a b
  | .blob a, .blob b => compareBytes a b
  | a, b => Ord.compare a.rank b.rank

/-- The affinity a declared column type gives: INT anywhere makes integer; else CHAR, CLOB or
TEXT make text; else BLOB or no type make blob; else REAL, FLOA or DOUB make real; anything else
is numeric. Case is ignored. -/
def Affinity.ofDeclaredType (t : String) : Affinity :=
  let u := foldAscii t
  let has (w : String) : Bool := occursIn w.toList u.toList
  if has "int" then .integer
  else if has "char" || has "clob" || has "text" then .text
  else if has "blob" || u.isEmpty then .blob
  else if has "real" || has "floa" || has "doub" then .real
  else .numeric

/-- Whether an affinity converts text to numbers. -/
def Affinity.isNumeric : Affinity → Bool
  | .numeric => true
  | .integer => true
  | .real => true
  | _ => false

end RoleSync.Sql
