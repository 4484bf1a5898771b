import RoleSync.Sql.Syntax
/-!
The operators on values.

Arithmetic works on the numbers that values stand for. Integer results that leave the 64-bit
range are computed again as doubles; division and remainder by zero give NULL, as does a double
result that is not a number. Comparisons first convert their operands by affinity (a numeric
operand makes text numeric; a text operand makes a bare number text), then compare in the order
of values under a collation; any NULL operand makes the result NULL, except for IS and IS NOT.
LIKE matches `%` and `_` ignoring ASCII case; GLOB matches `*`, `?` and bracket classes exactly.
-/

namespace RoleSync.Sql

set_option autoImplicit false

/-- Whether an integer fits in 64 bits. -/
def fitsInt (i : Int) : Bool := Double.minInt ≤ i && i ≤ Double.maxInt

/-- A value as a double, for arithmetic on numbers. -/
def Value.toReal : Value → Float
  | .integer i => Double.ofInt i
  | .real r => r
  | v => match v.toNumeric with
    | .integer i => Double.ofInt i
    | .real r => r
    | _ => 0

/-- A double result: NaN becomes NULL. -/
def realResult (r : Float) : Value := if r.isNaN then .null else .real r

/-- The integer at the front of a text, as a cast to INTEGER reads it: blanks, a sign and
digits, saturating at the 64-bit bounds. -/
def castIntegerText (s : String) : Int :=
  let cs := s.toList.dropWhile isAsciiBlank
  let (neg, ds) := match cs with
    | '-' :: r => (true, r)
    | '+' :: r => (false, r)
    | r => (false, r)
  let v : Nat := (ds.takeWhile isDigit).foldl (fun (v : Nat) (d : Char) => v * 10 + (d.toNat - 48)) 0
  let i : Int := if neg then -(v : Int) else v
  if i < Double.minInt then Double.minInt else if Double.maxInt < i then Double.maxInt else i

/-- The integer of a value, as bit operators and integer functions read it: doubles toward
zero, and text by the integer at its front, so that '1e2' reads as 1. -/
def Value.toInt : Value → Int
  | .null => 0
  | .integer i => i
  | .real r => Double.truncate r
  | v => castIntegerText ((v.asText?).getD "")

/-- The integer of a value cut to its low 32 bits, as functions that read a machine int see
it. -/
def Value.toInt32 (v : Value) : Int := (v.toInt + 2147483648) % 4294967296 - 2147483648

/-- Wraps an integer into 64 bits, as bit operators do. -/
def wrap64 (i : Int) : Int :=
  let m := i % 18446744073709551616
  if m ≤ Double.maxInt then m else m - 18446744073709551616

/-- Applies an arithmetic operator to two values. -/
def arithmetic (op : BinaryOp) (a b : Value) : Value :=
  match a.toNumeric, b.toNumeric with
  | .null, _ => .null
  | _, .null => .null
  | .integer x, .integer y =>
    match op with
    | .add => if fitsInt (x + y) then .integer (x + y) else realResult (Double.ofInt x + Double.ofInt y)
    | .sub => if fitsInt (x - y) then .integer (x - y) else realResult (Double.ofInt x - Double.ofInt y)
    | .mul => if fitsInt (x * y) then .integer (x * y) else realResult (Double.ofInt x * Double.ofInt y)
    | .div =>
      if y = 0 then .null
      else if fitsInt (x.tdiv y) then .integer (x.tdiv y)
      else realResult (Double.ofInt x / Double.ofInt y)
    | .rem => if y = 0 then .null else .integer (x.tmod (if y = -1 then 1 else y))
    | _ => .null
  | x, y =>
    let rx := x.toReal
    let ry := y.toReal
    match op with
    | .add => realResult (rx + ry)
    | .sub => realResult (rx - ry)
    | .mul => realResult (rx * ry)
    | .div => if ry == 0 then .null else realResult (rx / ry)
    | .rem =>
      let ix := Double.truncate rx
      let iy := Double.truncate ry
      if iy = 0 then .null else .real (Double.ofInt (ix.tmod (if iy = -1 then 1 else iy)))
    | _ => .null

/-- Applies a bit operator to two values. Shifts by a negative amount shift the other way, and
shifts of 64 places or more leave 0 or -1. -/
def bitwise (op : BinaryOp) (a b : Value) : Value :=
  if a.isNull || b.isNull then .null
  else
    let x := a.toInt
    let y := b.toInt
    let shift (v : Int) (by_ : Int) : Int :=
      if 0 ≤ by_ then
        if 64 ≤ by_ then 0 else wrap64 (v * (Double.pow2 by_.toNat : Int))
      else
        if by_ ≤ -64 then (if v < 0 then -1 else 0)
        else v / (Double.pow2 (-by_).toNat : Int)
    let ux := (x % 18446744073709551616).toNat
    let uy := (y % 18446744073709551616).toNat
    match op with
    | .bitAnd => .integer (wrap64 (Nat.land ux uy))
    | .bitOr => .integer (wrap64 (Nat.lor ux uy))
    | .shiftLeft => .integer (shift x y)
    | .shiftRight => .integer (shift x (-y))
    | _ => .null

/-- Concatenates the texts of two values; NULL makes NULL. -/
def concatValues (a b : Value) : Value :=
  match a.asText?, b.asText? with
  | some x, some y => .text (x ++ y)
  | _, _ => .null

/-- How a comparison converts its operands, from their affinities: toward numbers when one side
is numeric and the other is text or blob, toward text when one side is text and the other has
none. -/
def comparisonAffinity (left right : Affinity) : Option (Bool × Affinity) :=
  if left.isNumeric && !right.isNumeric then some (false, .numeric)
  else if right.isNumeric && !left.isNumeric then some (true, .numeric)
  else if left = .text && right = .blob then some (false, .text)
  else if right = .text && left = .blob then some (true, .text)
  else none

/-- Converts the operands of a comparison by their affinities. -/
def convertOperands (left right : Affinity) (a b : Value) : Value × Value :=
  -- a numeric side turns the other side's text into a number
  let a := if right.isNumeric && !left.isNumeric then a.numericForComparison else a
  let b := if left.isNumeric && !right.isNumeric then b.numericForComparison else b
  let a := if right = .text && left = .blob then a.textForComparison else a
  let b := if left = .text && right = .blob then b.textForComparison else b
  (a, b)

/-- The result of a comparison operator on an ordering. -/
def BinaryOp.accepts (op : BinaryOp) (o : Ordering) : Bool :=
  match op with
  | .eq => o == .eq
  | .ne => o != .eq
  | .lt => o == .lt
  | .le => o != .gt
  | .gt => o == .gt
  | .ge => o != .lt
  | .is => o == .eq
  | .isNot => o != .eq
  | _ => false

/-- A truth value as a value. -/
def ofBool (b : Bool) : Value := .integer (if b then 1 else 0)

/-- Compares two values with a comparison operator, after converting them by the affinities
of the operand expressions. -/
def compareValues (op : BinaryOp) (la ra : Affinity) (c : Collation) (a b : Value) : Value :=
  match op with
  | .is | .isNot =>
    if a.isNull && b.isNull then ofBool (op == .is)
    else if a.isNull || b.isNull then ofBool (op == .isNot)
    else
      let (a, b) := convertOperands la ra a b
      ofBool (op.accepts (Value.compareWith c a b))
  | _ =>
    if a.isNull || b.isNull then .null
    else
      let (a, b) := convertOperands la ra a b
      ofBool (op.accepts (Value.compareWith c a b))

/-- Three-valued AND. -/
def andValues (a b : Value) : Value :=
  match a.truth?, b.truth? with
  | some false, _ => ofBool false
  | _, some false => ofBool false
  | some true, some true => ofBool true
  | _, _ => .null

/-- Three-valued OR. -/
def orValues (a b : Value) : Value :=
  match a.truth?, b.truth? with
  | some true, _ => ofBool true
  | _, some true => ofBool true
  | some false, some false => ofBool false
  | _, _ => .null

/-- Three-valued NOT. -/
def notValue (a : Value) : Value :=
  match a.truth? with
  | some t => ofBool !t
  | none => .null

/-- Negates a value as a number. -/
def negateValue (a : Value) : Value :=
  match a.toNumeric with
  | .integer i => if i = Double.minInt then .real (Double.ofInt (-i)) else .integer (-i)
  | .real r => .real (-r)
  | _ => .null

/-- Whether a text matches a LIKE pattern: `%` matches any run, `_` any one character, the
escape character makes the next one literal, and ASCII letters match either case. -/
def likeMatch (escape : Option Char) : Nat → List Char → List Char → Bool
  | 0, _, _ => false
  | fuel + 1, p, s =>
    match p with
    | [] => s.isEmpty
    | c :: prest =>
      if some c = escape then
        match prest, s with
        | d :: more, x :: srest => Char.toLower d == Char.toLower x && likeMatch escape fuel more srest
        | _, _ => false
      else if c = '%' then
        likeMatch escape fuel prest s || (match s with
          | _ :: srest => likeMatch escape fuel p srest
          | [] => false)
      else if c = '_' then
        match s with
        | _ :: srest => likeMatch escape fuel prest srest
        | [] => false
      else
        match s with
        | x :: srest => Char.toLower c == Char.toLower x && likeMatch escape fuel prest srest
        | [] => false

/-- Whether a character lies in a GLOB bracket class body, which ends at its closing bracket;
answers the membership and what follows the class. -/
def globClass (c : Char) (body : List Char) : Option (Bool × List Char) :=
  let (negated, body) := match body with
    | '^' :: r => (true, r)
    | r => (false, r)
  let first := body.take 1
  let rest := body.drop 1
  let inner := first ++ rest.takeWhile (· ≠ ']')
  match (rest.dropWhile (· ≠ ']')) with
  | ']' :: after =>
    let rec member : List Char → Bool
      | a :: '-' :: b :: more => (a ≤ c && c ≤ b) || member more
      | a :: more => a == c || member more
      | [] => false
    some (member inner != negated, after)
  | _ => none

/-- Whether a text matches a GLOB pattern: `*` matches any run, `?` any one character, and a
bracket class one character of it; case counts. -/
def globMatch : Nat → List Char → List Char → Bool
  | 0, _, _ => false
  | fuel + 1, p, s =>
    match p with
    | [] => s.isEmpty
    | '*' :: prest =>
      globMatch fuel prest s || (match s with
        | _ :: srest => globMatch fuel p srest
        | [] => false)
    | '?' :: prest =>
      match s with
      | _ :: srest => globMatch fuel prest srest
      | [] => false
    | '[' :: body =>
      match s with
      | x :: srest =>
        match globClass x body with
        | some (true, after) => globMatch fuel after srest
        | _ => false
      | [] => false
    | c :: prest =>
      match s with
      | x :: srest => c == x && globMatch fuel prest srest
      | [] => false

/-- LIKE on values: the escape is checked first, then NULL operands give NULL. -/
def likeValues (pattern subject : Value) (escape : Option Value) : Except Failure Value :=
  let compare (esc : Option Char) : Except Failure Value :=
    match pattern.asText?, subject.asText? with
    | some p, some s =>
      if 50000 < (textBytes p).length then .error (.run "LIKE or GLOB pattern too complex")
      else
        let fuel := (p.length + 1) * (s.length + 1) + 1
        .ok (ofBool (likeMatch esc fuel p.toList s.toList))
    | _, _ => .ok .null
  match escape with
  | some e =>
    match e.asText? with
    | none => .ok .null
    | some t =>
      match t.toList with
      | [c] => compare (some c)
      | _ => .error (.run "ESCAPE expression must be a single character")
  | none => compare none

/-- GLOB on values: NULL operands give NULL. -/
def globValues (pattern subject : Value) : Value :=
  match pattern.asText?, subject.asText? with
  | some p, some s =>
    let fuel := (p.length + 1) * (s.length + 1) + 1
    ofBool (globMatch fuel p.toList s.toList)
  | _, _ => .null

end RoleSync.Sql
