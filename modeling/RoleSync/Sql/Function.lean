import RoleSync.Sql.JsonCall
import RoleSync.Sql.Printf
import RoleSync.Sql.DateTime
/-!
The built-in scalar functions, applied to values already evaluated.

Each function takes a fixed range of arguments; `scalarArity?` says which counts a name takes,
and a name it does not know is no function at all. Text functions see numbers by their text and
NULL as absent: most of them give NULL when an argument is NULL. Lower and upper case change
ASCII letters only. Positions count characters in text and bytes in blobs, from 1.
-/

namespace RoleSync.Sql

set_option autoImplicit false

/-- The functions that fold the rows of a group into one value. -/
def aggregateNames : List String :=
  ["count", "sum", "total", "avg", "min", "max", "group_concat", "string_agg", "json_group_array",
    "json_group_object"]

/-- Whether a call is to an aggregate: min and max are aggregates with one argument only. -/
def isAggregateCall (name : String) (args : Nat) (star : Bool) : Bool :=
  let n := foldAscii name
  if n = "min" || n = "max" then args = 1
  else if n = "count" then star || args ≤ 1
  else aggregateNames.contains n

/-- Whether an aggregate takes a number of arguments. -/
def aggregateArity (name : String) (args : Nat) (star : Bool) : Bool :=
  match foldAscii name with
  | "count" => star || args ≤ 1
  | "group_concat" => !star && (args = 1 || args = 2)
  | "string_agg" | "json_group_object" => !star && args = 2
  | _ => !star && args = 1

/-- The argument counts a scalar function takes, or none when there is no such function. -/
def scalarArity? (name : String) : Option (Nat → Bool) :=
  match foldAscii name with
  | "abs" | "hex" | "length" | "lower" | "upper" | "typeof" | "quote" | "unicode"
  | "zeroblob" | "sign" | "octet_length" | "randomblob" | "soundex" | "likely" | "unlikely" =>
    some (· = 1)
  | "ltrim" | "rtrim" | "trim" | "round" | "unhex" => some fun n => n = 1 || n = 2
  | "substr" | "substring" => some fun n => n = 2 || n = 3
  | "instr" | "nullif" | "ifnull" | "glob" | "likelihood" => some (· = 2)
  | "like" => some fun n => n = 2 || n = 3
  | "replace" | "iif" => some (· = 3)
  | "if" => some fun n => 2 ≤ n
  | "coalesce" | "concat_ws" => some (2 ≤ ·)
  | "concat" => some (1 ≤ ·)
  | "char" => some fun _ => true
  | "max" | "min" => some (2 ≤ ·)
  | "random" | "changes" | "total_changes" | "last_insert_rowid" | "sqlite_version" =>
    some (· = 0)
  | "printf" | "format" => some (1 ≤ ·)
  | n =>
    match dateTimeArity? n with
    | some arity => some arity
    | none => jsonArity? n

/-- The text of a value for a text function. -/
def textOf (v : Value) : String := (v.asText?).getD ""

/-- The bytes of a value for a byte function. -/
def bytesOf : Value → List UInt8
  | .blob b => b
  | v => textBytes (textOf v)

/-- Upper-case hexadecimal digits of bytes. -/
def hexText (bs : List UInt8) : String :=
  let digit (n : Nat) : Char := "0123456789ABCDEF".toList.getD n '0'
  String.ofList (bs.flatMap fun b => [digit (b.toNat / 16), digit (b.toNat % 16)])

/-- The characters or bytes that substr takes: from a start and for a length, both as given,
with negative starts counting from the end and negative lengths reaching back. -/
def substrRange (size : Nat) (start : Int) (length : Option Int) : Nat × Nat :=
  let (p2, negative) : Int × Bool := match length with
    | some l => if l < 0 then (-l, true) else (l, false)
    | none => (1000000000, false)
  let (p1, p2) : Int × Int :=
    if start < 0 then
      let p1 := start + size
      if p1 < 0 then (0, if p2 < 0 then 0 else p2 + p1) else (p1, p2)
    else if 0 < start then (start - 1, p2)
    else (0, if 0 < p2 then p2 - 1 else p2)
  let (p1, p2) : Int × Int :=
    if negative then
      let p1 := p1 - p2
      if p1 < 0 then (0, p2 + p1) else (p1, p2)
    else (p1, p2)
  (p1.toNat, (max p2 0).toNat)

/-- Drops characters of a set from the front of a list. -/
def dropSet (set : List Char) (cs : List Char) : List Char := cs.dropWhile set.contains

/-- The first position, from 1, where a list occurs in another, or 0. -/
def findSub {α : Type} [BEq α] (needle : List α) : List α → Nat → Nat
  | [], i => if needle.isEmpty then i else 0
  | h :: rest, i =>
    if (h :: rest).take needle.length == needle then i else findSub needle rest (i + 1)

/-- Replaces every occurrence of a non-empty list in another, within a number of steps. -/
def replaceAll {α : Type} [BEq α] (pattern replacement : List α) : Nat → List α → List α
  | 0, xs => xs
  | _ + 1, [] => []
  | fuel + 1, h :: rest =>
    if !pattern.isEmpty && (h :: rest).take pattern.length == pattern then
      replacement ++ replaceAll pattern replacement fuel ((h :: rest).drop pattern.length)
    else h :: replaceAll pattern replacement fuel rest

/-- Rounds a double to a number of decimal places, halves away from zero. -/
def roundReal (r : Float) (places : Nat) : Float :=
  match Double.toRatio r with
  | some (neg, num, den) =>
    let scale := Double.pow10 places
    let scaled := num * scale
    let q := scaled / den
    let rem := scaled % den
    let q := if 2 * rem ≥ den then q + 1 else q
    Double.ofRatio neg q scale
  | none => r


/-- The soundex code of a text: its first ASCII letter, upper case, and the digits of the
consonant groups after it, padded with zeros to four characters; a text without a letter
gives ?000. Every byte is coded by its low seven bits. -/
def soundex (s : String) : String :=
  let code (b : UInt8) : Nat :=
    let c := Char.ofNat (b.toNat % 128)
    let i := (c.toLower.toNat - 'a'.toNat)
    if c.isAlpha then ("01230120022455012623010202".toList.getD i '0').toNat - '0'.toNat else 0
  let bs := textBytes s
  let rest := bs.dropWhile fun b => !(Char.ofNat b.toNat).isAlpha || 128 ≤ b.toNat
  match rest with
  | [] => "?000"
  | first :: _ =>
    let (digits, _) := rest.foldl (fun (acc : List Char × Nat) b =>
      let (ds, prev) := acc
      if 3 ≤ ds.length then (ds, prev)
      else
        let k := code b
        if 0 < k then (if k ≠ prev then (ds ++ [Char.ofNat (48 + k)], k) else (ds, prev))
        else (ds, 0)) ([], code first)
    String.ofList ((Char.ofNat first.toNat).toUpper :: digits ++ List.replicate (3 - digits.length) '0')

/-- The value of a hexadecimal digit. -/
def hexDigit? (c : Char) : Option Nat :=
  if isDigit c then some (c.toNat - '0'.toNat)
  else if 'a' ≤ c && c ≤ 'f' then some (c.toNat - 'a'.toNat + 10)
  else if 'A' ≤ c && c ≤ 'F' then some (c.toNat - 'A'.toNat + 10)
  else none

/-- The bytes that pairs of hexadecimal digits stand for, with characters of a set allowed
between the pairs; none when anything else stands in the text. -/
def unhexPairs (pass : List Char) : List Char → Option (List UInt8)
  | [] => some []
  | [c] => if (hexDigit? c).isSome then none else if pass.contains c then some [] else none
  | c :: d :: rest =>
    match hexDigit? c with
    | some hi =>
      match hexDigit? d with
      | some lo => (unhexPairs pass rest).map ((16 * hi + lo).toUInt8 :: ·)
      | none => none
    | none => if pass.contains c then unhexPairs pass (d :: rest) else none

/-- Applies a scalar function to its evaluated arguments, each marked with whether it is JSON
made by a JSON function. -/
def callScalar (name : String) (args : List Value) (marks : List Bool) : Except Failure Value :=
  let arg (i : Nat) : Value := args.getD i .null
  let anyNull := args.any (·.isNull)
  match foldAscii name with
  | "abs" =>
    match arg 0 with
    | .null => .ok .null
    | .integer i =>
      if i = Double.minInt then .error (.run "integer overflow") else .ok (.integer i.natAbs)
    | v => .ok (.real (Float.abs v.toReal))
  | "char" =>
    .ok (.text (String.ofList (args.map fun v =>
      let c := v.toInt
      let c := if c < 0 || c > 0x10FFFF then 0xFFFD else c.toNat
      Char.ofNat c)))
  | "coalesce" | "ifnull" => .ok ((args.find? fun v => !v.isNull).getD .null)
  | "nullif" =>
    if Value.compareWith .binary (arg 0) (arg 1) == .eq && !(arg 0).isNull then .ok .null
    else .ok (arg 0)
  | "iif" | "if" => .ok .null
  | "instr" =>
    if anyNull then .ok .null
    else
      match arg 0, arg 1 with
      | .blob h, .blob n => .ok (.integer (findSub n h 1))
      | h, n => .ok (.integer (findSub (textOf n).toList (textOf h).toList 1))
  | "hex" => .ok (.text (hexText (bytesOf (arg 0))))
  | "length" =>
    match arg 0 with
    | .null => .ok .null
    | .blob b => .ok (.integer b.length)
    | .text s => .ok (.integer ((s.toList.takeWhile (· ≠ Char.ofNat 0)).length))
    | v => .ok (.integer (textOf v).length)
  | "octet_length" =>
    match arg 0 with
    | .null => .ok .null
    | v => .ok (.integer (bytesOf v).length)
  | "lower" =>
    if anyNull then .ok .null else .ok (.text (String.ofList ((textOf (arg 0)).toList.map Char.toLower)))
  | "upper" =>
    if anyNull then .ok .null else .ok (.text (String.ofList ((textOf (arg 0)).toList.map Char.toUpper)))
  | "ltrim" | "rtrim" | "trim" =>
    if anyNull then .ok .null
    else
      let set := if args.length = 2 then (textOf (arg 1)).toList else [' ']
      let cs := (textOf (arg 0)).toList
      let n := foldAscii name
      let cs := if n = "rtrim" then cs else dropSet set cs
      let cs := if n = "ltrim" then cs else (dropSet set cs.reverse).reverse
      .ok (.text (String.ofList cs))
  | "replace" =>
    if anyNull then .ok .null
    else
      let pattern := (textOf (arg 1)).toList
      if pattern.isEmpty then .ok (.text (textOf (arg 0)))
      else .ok (.text (String.ofList (replaceAll pattern (textOf (arg 2)).toList ((textOf (arg 0)).length + 1) (textOf (arg 0)).toList)))
  | "substr" | "substring" =>
    if anyNull then .ok .null
    else
      let length := if args.length = 3 then some (arg 2).toInt32 else none
      match arg 0 with
      | .blob [] => .ok .null
      | .blob b =>
        let (p1, p2) := substrRange b.length (arg 1).toInt32 length
        .ok (.blob ((b.drop p1).take p2))
      | v =>
        let cs := (textOf v).toList
        let (p1, p2) := substrRange cs.length (arg 1).toInt32 length
        .ok (.text (String.ofList ((cs.drop p1).take p2)))
  | "typeof" => .ok (.text (arg 0).typeofName)
  | "quote" =>
    match arg 0 with
    | .null => .ok (.text "NULL")
    | .text s => .ok (.text ("'" ++ String.ofList (s.toList.flatMap fun c => if c = '\'' then ['\'', '\''] else [c]) ++ "'"))
    | .blob b => .ok (.text ("X'" ++ hexText b ++ "'"))
    | v => .ok (.text (textOf v))
  | "unicode" =>
    match arg 0 with
    | .null => .ok .null
    | v => match (textOf v).toList with
      | c :: _ => .ok (.integer c.toNat)
      | [] => .ok .null
  | "zeroblob" =>
    let n := max (arg 0).toInt 0
    if Printf.largest < n then .error (.run "string or blob too big")
    else .ok (.blob (List.replicate n.toNat 0))
  | "sign" =>
    match (arg 0).withAffinity .numeric with
    | .integer i => .ok (.integer (if i < 0 then -1 else if i = 0 then 0 else 1))
    | .real r => .ok (.integer (if r < 0 then -1 else if r == 0 then 0 else 1))
    | _ => .ok .null
  | "round" =>
    if anyNull then .ok .null
    else
      let places := if args.length = 2 then (max (min (arg 1).toInt32 30) 0).toNat else 0
      match (arg 0).toNumeric with
      | .integer i => .ok (.real (Double.ofInt i))
      | v => .ok (.real (roundReal v.toReal places))
  | "max" | "min" =>
    if anyNull then .ok .null
    else
      let pick (a b : Value) : Value :=
        let o := Value.compareWith .binary a b
        if foldAscii name = "max" then (if o == .lt then b else a) else (if o == .lt then a else b)
      match args with
      | a :: rest => .ok (rest.foldl pick a)
      | [] => .ok .null
  | "like" =>
    likeValues (arg 0) (arg 1) (if args.length = 3 then some (arg 2) else none)
  | "glob" => .ok (globValues (arg 0) (arg 1))
  | "concat" => .ok (.text (String.join (args.map textOf)))
  | "concat_ws" =>
    match arg 0 with
    | .null => .ok .null
    | sep => .ok (.text ((textOf sep).intercalate ((args.drop 1).filter (!·.isNull) |>.map textOf)))
  | "likely" | "unlikely" | "likelihood" => .ok (arg 0)
  | "sqlite_version" => .ok (.text "3.50.4")
  | "changes" | "total_changes" | "last_insert_rowid" | "random" => .ok (.integer 0)
  | "printf" | "format" => printfValue (arg 0) (args.drop 1)
  | "soundex" => .ok (.text (soundex (textOf (arg 0))))
  | "unhex" =>
    if anyNull then .ok .null
    else
      let pass := if args.length = 2 then (textOf (arg 1)).toList else []
      match unhexPairs pass (textOf (arg 0)).toList with
      | some bs => .ok (.blob bs)
      | none => .ok .null
  | "randomblob" =>
    let n := max (arg 0).toInt 1
    if Printf.largest < n then .error (.run "string or blob too big")
    else .ok (.blob (List.replicate n.toNat 0))
  | n =>
    if (dateTimeArity? n).isSome then .ok (callDateTime n args)
    else if (jsonArity? n).isSome then callJson n (args.zip (marks ++ List.replicate args.length false))
    else .ok .null

end RoleSync.Sql
