/-!
Double-precision numbers, read through their bit patterns. A finite double is an integer times
a power of two, so every conversion to and from integers and decimal text can be done with exact
integer arithmetic and rounded once, to nearest with ties to even.

Main definitions: `ofRatio` (the double nearest a fraction), `decode` (a finite double as sign,
integer and power of two), `compareInt` (an integer against a double, exactly), `truncate`
(toward zero, saturating at the 64-bit bounds) and `render` (the text a database writes for a
real: fifteen significant digits, a point always, an exponent outside 1e-4 .. 1e15).
-/

namespace RoleSync.Sql.Double

set_option autoImplicit false

/-- Two to the 52nd power: the weight of a double's hidden bit. -/
def hiddenBit : Nat := 4503599627370496

/-- Two to the 53rd power. -/
def twoTo53 : Nat := 9007199254740992

/-- Two to the 63rd power: the weight of the sign bit. -/
def signWeight : Nat := 9223372036854775808

/-- The smallest signed 64-bit integer. -/
def minInt : Int := -9223372036854775808

/-- The largest signed 64-bit integer. -/
def maxInt : Int := 9223372036854775807

/-- Two to a power. -/
def pow2 (n : Nat) : Nat := Nat.pow 2 n

/-- Ten to a power. -/
def pow10 (n : Nat) : Nat := Nat.pow 10 n

/-- Positive or negative zero. -/
def zero (negative : Bool) : Float :=
  Float.ofBits (if negative then signWeight.toUInt64 else 0)

/-- The double nearest to num / den, with the given sign: ties go to the even neighbour, and a
magnitude beyond the largest double is infinite. -/
def ofRatio (negative : Bool) (num den : Nat) : Float :=
  if num = 0 || den = 0 then zero negative
  else
    let e0 : Int := (Nat.log2 num : Int) - (Nat.log2 den : Int)
    let atLeast : Bool := match e0 with
      | .ofNat k => den * pow2 k ≤ num
      | .negSucc k => den ≤ num * pow2 (k + 1)
    let top : Int := if atLeast then e0 else e0 - 1
    let x : Int := max (top - 52) (-1074)
    let (q, r, d) : Nat × Nat × Nat := match x with
      | .ofNat k => (num / (den * pow2 k), num % (den * pow2 k), den * pow2 k)
      | .negSucc k => (num * pow2 (k + 1) / den, num * pow2 (k + 1) % den, den)
    let q := if d < 2 * r || (2 * r = d && q % 2 = 1) then q + 1 else q
    let (q, x) := if q = twoTo53 then (hiddenBit, x + 1) else (q, x)
    let sign : UInt64 := if negative then signWeight.toUInt64 else 0
    if q < hiddenBit then Float.ofBits (sign ||| q.toUInt64)
    else
      let biased := x + 1075
      if 2047 ≤ biased then Float.ofBits (sign ||| 0x7FF0000000000000)
      else Float.ofBits (sign ||| (biased.toNat.toUInt64 <<< 52) ||| (q - hiddenBit).toUInt64)

/-- The double nearest an integer. -/
def ofInt (i : Int) : Float := ofRatio (i < 0) i.natAbs 1

/-- A finite double as its sign, an integer and a power of two: the value is the integer times
two to the power, negated when the sign is set. Infinities and NaN have none. -/
def decode (f : Float) : Option (Bool × Nat × Int) :=
  let b := f.toBits.toNat
  let biased := (b / hiddenBit) % 2048
  let frac := b % hiddenBit
  if biased = 2047 then none
  else if biased = 0 then some (signWeight ≤ b, frac, -1074)
  else some (signWeight ≤ b, frac + hiddenBit, (biased : Int) - 1075)

/-- A finite double as a fraction: sign, numerator and denominator. -/
def toRatio (f : Float) : Option (Bool × Nat × Nat) :=
  (decode f).map fun (neg, m, x) =>
    match x with
    | .ofNat k => (neg, m * pow2 k, 1)
    | .negSucc k => (neg, m, pow2 (k + 1))

/-- Compares an integer with a double exactly; an infinite double lies beyond every integer. -/
def compareInt (i : Int) (r : Float) : Ordering :=
  match toRatio r with
  | some (neg, num, den) => compare (i * den) (if neg then -(num : Int) else num)
  | none => if r.isNaN then .gt else if 0 < r then .lt else .gt

/-- The integer part of a double, toward zero, saturating at the 64-bit bounds. -/
def truncate (r : Float) : Int :=
  match toRatio r with
  | some (neg, num, den) =>
    let t : Int := if neg then -((num / den : Nat) : Int) else (num / den : Nat)
    if t ≤ minInt then minInt else if maxInt ≤ t then maxInt else t
  | none => if 0 < r then maxInt else minInt

/-- Whether a double is an integer strictly between the 64-bit bounds, as a real value must be
to be stored as an integer. -/
def exactInt? (r : Float) : Option Int :=
  match toRatio r with
  | some (neg, num, den) =>
    if num % den = 0 then
      let t : Int := if neg then -((num / den : Nat) : Int) else (num / den : Nat)
      if minInt < t && t < maxInt then some t else none
    else none
  | none => none

/-- The decimal digits of a positive fraction whose denominator is a power of two, exactly,
with the number of digits before the point. -/
def exactDigits (num den : Nat) : List Char × Int :=
  let k := Nat.log2 den
  let scaled := num * Nat.pow 5 k
  let ds := Nat.toDigits 10 scaled
  (ds, (ds.length : Int) - k)

/-- Adds one to the last of a list of decimal digits, carrying; answers whether a digit was
added in front. -/
def increment (ds : List Char) : List Char × Bool :=
  let (out, carry) := ds.foldr (fun d (acc, carry) =>
    if carry then
      if d = '9' then ('0' :: acc, true) else (Char.ofNat (d.toNat + 1) :: acc, false)
    else (d :: acc, false)) ([], true)
  if carry then ('1' :: out, true) else (out, false)

/-- Rounds decimal digits to at most fifteen, half up on the sixteenth, and drops trailing
zeros; the place of the point moves with a carry into a new digit. -/
def roundDigits (ds : List Char) (point : Int) : List Char × Int :=
  let (kept, point) :=
    if ds.length ≤ 15 then (ds, point)
    else
      let head := ds.take 15
      match ds.drop 15 with
      | d :: _ =>
        if '5' ≤ d then
          let (up, grew) := increment head
          if grew then (up.take 15, point + 1) else (up, point)
        else (head, point)
      | [] => (head, point)
  ((kept.reverse.dropWhile (· = '0')).reverse, point)

/-- The digits after a point, written out: at least one. -/
def fractionText (ds : List Char) : String :=
  let trimmed := (ds.reverse.dropWhile (· = '0')).reverse
  if trimmed.isEmpty then "0" else String.ofList trimmed

/-- Writes a positive double's rounded digits with its point, in plain or exponent form. -/
def layout (ds : List Char) (point : Int) : String :=
  let exp := point - 1
  if exp < -4 || 14 < exp then
    let mant := match ds with
      | d :: rest => String.singleton d ++ "." ++ fractionText rest
      | [] => "0.0"
    let e := exp.natAbs
    let eText := if e < 10 then "0" ++ toString e else toString e
    mant ++ "e" ++ (if exp < 0 then "-" else "+") ++ eText
  else
    match point with
    | .ofNat p =>
      let whole := (ds.take p) ++ List.replicate (p - ds.length) '0'
      let wholeText := if whole.isEmpty then "0" else String.ofList whole
      wholeText ++ "." ++ fractionText (ds.drop p)
    | .negSucc z => "0." ++ fractionText (List.replicate (z + 1) '0' ++ ds)

/-- The text of a double as the database writes a real: up to fifteen significant digits,
always with a point (1.0), and in exponent form (1.0e+15) below 1e-4 or from 1e15 on. -/
def render (r : Float) : String :=
  match toRatio r with
  | none => if r.isNaN then "NaN" else if 0 < r then "Inf" else "-Inf"
  | some (neg, num, den) =>
    if num = 0 then "0.0"
    else
      let (ds, point) := exactDigits num den
      let (ds, point) := roundDigits ds point
      (if neg then "-" else "") ++ layout ds point

end RoleSync.Sql.Double
