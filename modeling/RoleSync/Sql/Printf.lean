import RoleSync.Sql.Operator
/-!
The printf function: a format text whose conversions take the arguments in turn.

A conversion is a percent sign, flags, a width, a precision and a letter. Widths and
precisions count bytes of UTF-8, except that the `!` flag makes them count characters for text.
Integers are read from an argument as a cast reads them, doubles as arithmetic does, and text
as its characters; an argument past the last is NULL. A letter that names no conversion ends
the output there, and so does the end of the format inside a conversion.

Doubles are written from their decimal digits rounded to at most sixteen significant digits,
half away from zero on the next digit.
-/

namespace RoleSync.Sql

set_option autoImplicit false

namespace Printf

/-- How a conversion is written: its flags, its width and its precision. -/
structure Conversion where
  leftJustify : Bool
  /-- The mark before a number that is not negative: a plus sign or a blank. -/
  sign : Option Char
  alternate : Bool
  /-- The `!` flag: widths and precisions of text count characters, and doubles keep more
  digits. -/
  alternate2 : Bool
  zeroPad : Bool
  thousands : Bool
  width : Int
  precision : Option Nat

/-- A conversion with no flags, width or precision. -/
def Conversion.plain : Conversion := ⟨false, none, false, false, false, false, 0, none⟩

/-- A text as its UTF-8 bytes, each held as the character of its value, so that lengths count
bytes. -/
def byteChars (s : String) : List Char := (textBytes s).map fun b => Char.ofNat b.toNat

/-- Bytes held as characters, read back as text. -/
def bytesOfChars (cs : List Char) : String := bytesText (cs.map fun c => c.toNat.toUInt8)

/-- Whether a byte continues a UTF-8 character. -/
def isContinuation (c : Char) : Bool := c.toNat / 64 = 2

/-- The bytes of the first characters of a text of bytes: a byte from 0xC0 up takes the
continuation bytes after it along. -/
def takeCharacters : Nat → List Char → List Char
  | 0, _ => []
  | _, [] => []
  | n + 1, c :: rest =>
    if 0xC0 ≤ c.toNat then
      let more := rest.takeWhile isContinuation
      c :: more ++ takeCharacters n (rest.drop more.length)
    else c :: takeCharacters n rest

/-- The next argument, NULL once they run out. -/
def nextArg : List Value → Value × List Value
  | [] => (.null, [])
  | v :: rest => (v, rest)

/-- An argument read as text, up to a zero byte; NULL has none. -/
def textArg : Value → Option (List Char)
  | .null => none
  | v => some ((byteChars ((v.asText?).getD "")).takeWhile fun c => c.toNat ≠ 0)

/-- The value of decimal digits. -/
def digitsValue (ds : List Char) : Nat := ds.foldl (fun a c => 10 * a + (c.toNat - '0'.toNat)) 0

/-- Reads the flags, width and precision of a conversion after its percent sign, taking the
arguments that a star asks for; answers them with the conversion's letter, none at the end of
the format, and what follows it. -/
def readConversion : Nat → Conversion → List Char → List Value →
    Conversion × Option Char × List Char × List Value
  | 0, conv, cs, args => (conv, none, cs, args)
  | n + 1, conv, cs, args =>
    let finish (conv : Conversion) (cs : List Char) (args : List Value) :
        Conversion × Option Char × List Char × List Value :=
      match cs with
      | c :: r => (conv, some c, r, args)
      | [] => (conv, none, [], args)
    match cs with
    | [] => (conv, none, [], args)
    | c :: rest =>
      if c = '-' then readConversion n { conv with leftJustify := true } rest args
      else if c = '+' then readConversion n { conv with sign := some '+' } rest args
      else if c = ' ' then readConversion n { conv with sign := some ' ' } rest args
      else if c = '#' then readConversion n { conv with alternate := true } rest args
      else if c = '!' then readConversion n { conv with alternate2 := true } rest args
      else if c = '0' then readConversion n { conv with zeroPad := true } rest args
      else if c = ',' then readConversion n { conv with thousands := true } rest args
      else if c = 'l' then
        finish conv (match rest with
          | 'l' :: r => r
          | r => r) args
      else if '1' ≤ c && c ≤ '9' then
        let ds := cs.takeWhile isDigit
        let rest := cs.drop ds.length
        let conv := { conv with width := (digitsValue ds % 2147483648 : Nat) }
        match rest with
        | '.' :: _ | 'l' :: _ => readConversion n conv rest args
        | _ => finish conv rest args
      else if c = '*' then
        let (v, args) := nextArg args
        let w := v.toInt32
        let conv := if w < 0 then { conv with leftJustify := true, width := -w } else { conv with width := w }
        match rest with
        | '.' :: _ | 'l' :: _ => readConversion n conv rest args
        | _ => finish conv rest args
      else if c = '.' then
        match rest with
        | '*' :: r =>
          let (v, args) := nextArg args
          let conv := { conv with precision := some (v.toInt32).natAbs }
          match r with
          | 'l' :: _ => readConversion n conv r args
          | _ => finish conv r args
        | _ =>
          let ds := rest.takeWhile isDigit
          let r := rest.drop ds.length
          let conv := { conv with precision := some (digitsValue ds % 2147483648) }
          match r with
          | 'l' :: _ => readConversion n conv r args
          | _ => finish conv r args
      else (conv, some c, rest, args)

/-- Digits with a comma before every group of three from the right. -/
def groupThousands (ds : List Char) : List Char :=
  let rec go : Nat → List Char → List Char
    | 0, cs => cs
    | fuel + 1, cs =>
      if cs.length ≤ 3 then cs else cs.take 3 ++ ',' :: go fuel (cs.drop 3)
  (go ds.length ds.reverse).reverse

/-- The text of an integer conversion: d, i and r are signed, r with an ordinal suffix; u, x,
X, o and p take the integer's 64 bits as unsigned. Zero padding fills the width through the
precision. -/
def integerText (conv : Conversion) (letter : Char) (v : Int) : List Char :=
  let signed := letter = 'd' || letter = 'i' || letter = 'r'
  let (magnitude, mark) : Nat × Option Char :=
    if signed then (if v < 0 then (v.natAbs, some '-') else (v.toNat, conv.sign))
    else ((if v < 0 then v + 18446744073709551616 else v).toNat, none)
  let base := if letter = 'x' || letter = 'X' || letter = 'p' then 16 else if letter = 'o' then 8 else 10
  let digits := Nat.toDigits base magnitude
  let digits := if letter = 'X' then digits.map Char.toUpper else digits
  let suffix : List Char :=
    if letter = 'r' then
      let x := magnitude % 10
      if 4 ≤ x || (magnitude / 10) % 10 = 1 then ['t', 'h']
      else ((["th", "st", "nd", "rd"].getD x "th").toList)
    else []
  let markLength : Int := if mark.isSome then 1 else 0
  let precision : Int := match conv.precision with
    | some p => p
    | none => -1
  let precision := if conv.zeroPad && precision < conv.width - markLength then conv.width - markLength else precision
  let body := digits ++ suffix
  let body := List.replicate (precision - body.length).toNat '0' ++ body
  let body :=
    if conv.thousands && (letter = 'd' || letter = 'i' || letter = 'u') then groupThousands body
    else body
  let lead : List Char :=
    if conv.alternate && magnitude ≠ 0 then
      if letter = 'x' || letter = 'p' then ['0', 'x']
      else if letter = 'X' then ['0', 'X']
      else if letter = 'o' then ['0']
      else []
    else []
  lead ++ mark.toList ++ body

/-- A double's significant decimal digits and the place of its point, rounded as a conversion
asks: to a number of digits when `round` is positive, to a place after the point when it is
not, and never to more than `most` digits. Trailing zeros are dropped. -/
def decimalDigits (r : Float) (round : Int) (most : Nat) : Bool × List Char × Int :=
  match Double.toRatio r with
  | none => (false, ['0'], 1)
  | some (neg, num, den) =>
    if num = 0 then (false, ['0'], 1)
    else
      let (ds, point) := Double.exactDigits num den
      let (ds, point, round) : List Char × Int × Int :=
        if round ≤ 0 then
          let k := point - round
          if k = 0 && '5' ≤ ds.headD '0' then ('0' :: ds, point + 1, 1) else (ds, point, k)
        else (ds, point, round)
      let (ds, point) : List Char × Int :=
        if 0 < round && (round < ds.length || most < ds.length) then
          let k := min round.toNat most
          let head := ds.take k
          match ds.drop k with
          | d :: _ =>
            if '5' ≤ d then
              let (up, grew) := Double.increment head
              (up, if grew then point + 1 else point)
            else (head, point)
          | [] => (head, point)
        else (ds, point)
      let ds := (ds.reverse.dropWhile (· = '0')).reverse
      (neg, ds, point)

/-- The text of a double conversion: f writes a fixed number of places, e and E an exponent
form, and g and G whichever suits the number, without trailing zeros. -/
def floatText (conv : Conversion) (letter : Char) (r : Float) : List Char :=
  let generic := letter = 'g' || letter = 'G'
  let precision := conv.precision.getD 6
  let precision := if generic && precision = 0 then 1 else precision
  let round : Int := if letter = 'f' then -(precision : Int) else if generic then precision else precision + 1
  if r.isNaN then (if conv.zeroPad then "null" else "NaN").toList
  else if r.isInf && !conv.zeroPad then
    if r < 0 then "-Inf".toList else conv.sign.toList ++ "Inf".toList
  else
    let (neg, ds, point) :=
      if r.isInf then (decide (r < 0), ['9'], (1000 : Int))
      else decimalDigits r round (if conv.alternate2 then 26 else 16)
    let mark : Option Char := if neg then some '-' else conv.sign
    let exp := point - 1
    let (expForm, places, trim) : Bool × Int × Bool :=
      if generic then
        let p : Int := precision - 1
        if exp < -4 || p < exp then (true, p, !conv.alternate) else (false, p - exp, !conv.alternate)
      else (letter = 'e' || letter = 'E', precision, conv.alternate2)
    let e2 : Int := if expForm then 0 else exp
    let point? := 0 < places || conv.alternate || conv.alternate2
    let digit (j : Nat) : Char := ds.getD j '0'
    -- the digits before the point, with the count of significant digits they use
    let whole : List Char :=
      if e2 < 0 then ['0']
      else
        (List.range (e2.toNat + 1)).flatMap fun (j : Nat) =>
          let place : Int := e2 - (j : Int)
          if conv.thousands && place % 3 = 0 && 1 < place then [digit j, ','] else [digit j]
    let used : Nat := if e2 < 0 then 0 else e2.toNat + 1
    let leading : Nat := if e2 < 0 then min (-(e2 + 1)).toNat places.toNat else 0
    let after : Nat := places.toNat - leading
    let fraction := List.replicate leading '0' ++ (List.range after).map fun j => digit (used + j)
    let body := whole ++ (if point? then ['.'] else []) ++ fraction
    let body :=
      if trim && point? then
        let kept := (body.reverse.dropWhile (· = '0')).reverse
        match kept.getLast? with
        | some '.' => if conv.alternate2 then kept ++ ['0'] else kept.dropLast
        | _ => kept
      else body
    let body :=
      if expForm then
        let e := exp.natAbs
        let hundreds := if 100 ≤ e then [Char.ofNat (48 + e / 100)] else []
        let e := e % 100
        body ++ [if letter = 'E' || letter = 'G' then 'E' else 'e', if exp < 0 then '-' else '+'] ++
          hundreds ++ [Char.ofNat (48 + e / 10), Char.ofNat (48 + e % 10)]
      else body
    let text := mark.toList ++ body
    if conv.zeroPad && !conv.leftJustify && (text.length : Int) < conv.width then
      mark.toList ++ List.replicate (conv.width - text.length).toNat '0' ++ body
    else text

/-- Pads the text of a conversion with blanks to its width, on the left unless it is left
justified. -/
def pad (conv : Conversion) (width : Int) (body : List Char) : List Char :=
  let fill := width - body.length
  if 0 < fill then
    if conv.leftJustify then body ++ List.replicate fill.toNat ' '
    else List.replicate fill.toNat ' ' ++ body
  else body

/-- The width a text conversion pads to: with the `!` flag, its continuation bytes do not
count. -/
def utf8Width (conv : Conversion) (width : Int) (body : List Char) : Int :=
  if conv.alternate2 && 0 < width then width + (body.filter isContinuation).length else width

/-- The output of one conversion and the arguments left, or none where the output ends. -/
def convert (conv : Conversion) (letter : Char) (args : List Value) :
    Option (List Char × List Value) :=
  let (v, rest) := nextArg args
  if letter = 'd' || letter = 'i' || letter = 'u' || letter = 'r' || letter = 'x' ||
      letter = 'X' || letter = 'o' || letter = 'p' then
    let conv := if letter = 'd' || letter = 'i' || letter = 'u' then conv else { conv with thousands := false }
    some (pad conv conv.width (integerText conv letter (v.toInt)), rest)
  else if letter = 'f' || letter = 'e' || letter = 'E' || letter = 'g' || letter = 'G' then
    some (pad conv conv.width (floatText conv letter v.toReal), rest)
  else if letter = 's' || letter = 'z' then
    let s := (textArg v).getD []
    let s := match conv.precision with
      | some p => if conv.alternate2 then takeCharacters p s else s.take p
      | none => s
    some (pad conv (utf8Width conv conv.width s) s, rest)
  else if letter = 'q' || letter = 'Q' || letter = 'w' then
    let quote := if letter = 'w' then '"' else Char.ofNat 39
    let (isNull, s) : Bool × List Char := match textArg v with
      | some s => (false, s)
      | none => (true, (if letter = 'Q' then "NULL" else "(NULL)").toList)
    let s := match conv.precision with
      | some p => if conv.alternate2 then takeCharacters p s else s.take p
      | none => s
    let doubled := s.flatMap fun c => if c = quote then [c, c] else [c]
    let body := if !isNull && letter = 'Q' then quote :: doubled ++ [quote] else doubled
    some (pad conv (utf8Width conv conv.width body) body, rest)
  else if letter = 'c' then
    let one : List Char := match textArg v with
      | some (c :: more) => if 0xC0 ≤ c.toNat then c :: (more.takeWhile isContinuation).take 3 else [c]
      | _ => [Char.ofNat 0]
    let conv := { conv with alternate2 := true }
    match conv.precision with
    | some p =>
      if 1 < p then
        let width : Int := conv.width - (p - 1)
        let (lead, width) : List Char × Int :=
          if 1 < width && !conv.leftJustify then (List.replicate (width - 1).toNat ' ', 0) else ([], width)
        let copies := (List.replicate (p - 1) one).flatten
        some (lead ++ copies ++ pad conv (utf8Width conv width one) one, rest)
      else some (pad conv (utf8Width conv conv.width one) one, rest)
    | none => some (pad conv (utf8Width conv conv.width one) one, rest)
  else if letter = '%' then some (pad conv conv.width ['%'], args)
  else if letter = 'n' then some ([], args)
  else none

/-- The largest width or precision that leaves a result the database can hold. -/
def largest : Int := 999999999

/-- What writing a format gives: its text, none when nothing at all was written, or too much
to hold. -/
inductive Written where
  | text (out : Option (List Char))
  | tooBig

/-- Writes a format of bytes with its arguments, within a number of steps, after what was
written so far. Literal text and every conversion written count as written, even when empty. -/
def write : Nat → List Char → List Value → Option (List Char) → Written
  | 0, _, _, out => .text out
  | n + 1, fmt, args, out =>
    let add (text : List Char) : Option (List Char) := some (out.getD [] ++ text)
    match fmt with
    | [] => .text out
    | ['%'] => .text (add ['%'])
    | '%' :: rest =>
      match readConversion rest.length Conversion.plain rest args with
      | (_, none, _, _) => .text out
      | (conv, some letter, rest, args) =>
        if largest < conv.width || largest < (conv.precision.getD 0 : Int) then .tooBig
        else
          match convert conv letter args with
          | some (text, args) => write n rest args (add text)
          | none => .text out
    | _ =>
      let literal := fmt.takeWhile (· ≠ '%')
      write n (fmt.drop literal.length) args (add literal)

end Printf

/-- The printf function: a NULL format gives NULL, and so does a format that writes nothing at
all; a width or precision too large for a value is an error. -/
def printfValue (format : Value) (args : List Value) : Except Failure Value :=
  match format with
  | .null => .ok .null
  | f =>
    let fmt := Printf.byteChars ((f.asText?).getD "")
    match Printf.write (fmt.length + 1) fmt args none with
    | .text (some out) =>
      if Printf.largest < out.length then .error (.run "string or blob too big")
      else .ok (.text (Printf.bytesOfChars out))
    | .text none => .ok .null
    | .tooBig => .error (.run "string or blob too big")

end RoleSync.Sql
