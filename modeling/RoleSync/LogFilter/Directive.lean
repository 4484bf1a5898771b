import RoleSync.Text.Blank
import RoleSync.Text.Letter
import RoleSync.LogFilter.Pattern
/-!
Log filters: which log records are kept, written as comma-separated directives.

Each directive is trimmed of blanks, and empty ones are skipped. A directive is a level on its
own (`error`, `warn`, `info`, `debug`, `trace` or `off` in any case, or a number from 0 to 5), or
a target name, then optionally a span in brackets, then optionally `=` and a level. A span may
list a field filter in braces, `[name{field=value}]`, whose value must be a boolean, a number
or a pattern the matcher accepts. Names are made of printable ASCII, blanks and letters and
digits of any script; the filter is accepted when every directive is.
-/

namespace RoleSync.LogFilter

set_option autoImplicit false

/-- The level names, in lower case. -/
def levelNames : List String := ["error", "warn", "info", "debug", "trace", "off"]

/-- The value of an unsigned number: an optional plus sign, then digits. -/
def unsignedValue? (s : String) : Option Nat :=
  let body := match s.toList with
    | '+' :: r => r
    | r => r
  if !body.isEmpty && body.all isDigit then some (decimalNumber body) else none

/-- Whether a text is a level: a number from 0 to 5, a level name in any case of its ASCII
letters, or nothing at all, which stands for the error level. -/
def isLevel (s : String) : Bool :=
  (match unsignedValue? s with
   | some v => v ≤ 5
   | none => false) ||
  s.isEmpty || levelNames.contains (String.ofList (s.toList.map Char.toLower))

/-- Whether a character may appear in a target or span name: printable ASCII, a blank, or a
letter or digit of any script. -/
def isNameChar (c : Char) : Bool :=
  (33 ≤ c.toNat && c.toNat ≤ 126) || Text.isBlankChar c || Text.isAlphanumeric c

/-- Whether a text is a number: an optional sign, then inf, infinity or nan in any case, or
digits with an optional point and an optional exponent. -/
def isNumber (s : String) : Bool :=
  let body := match s.toList with
    | '+' :: r => r
    | '-' :: r => r
    | r => r
  let word := String.ofList (body.map Char.toLower)
  if word = "inf" || word = "infinity" || word = "nan" then true
  else
    let whole := body.takeWhile isDigit
    let afterWhole := body.dropWhile isDigit
    let (fraction, afterFraction) := match afterWhole with
      | '.' :: r => (r.takeWhile isDigit, r.dropWhile isDigit)
      | r => ([], r)
    let mantissaOk := !whole.isEmpty || !fraction.isEmpty
    let exponentOk := match afterFraction with
      | [] => true
      | e :: r =>
        (e = 'e' || e = 'E') &&
        (let ds := match r with
          | '+' :: d => d
          | '-' :: d => d
          | d => d
         !ds.isEmpty && ds.all isDigit)
    mantissaOk && exponentOk

/-- Whether a field filter's value is accepted: a boolean, a number or an accepted pattern. -/
def isFieldValue (s : String) : Bool :=
  s = "true" || s = "false" || isNumber s || Pattern.isValid s

/-- Whether a span's field list is accepted: a field name, and optionally `=` and a value. -/
def isFieldList (fields : List Char) : Bool :=
  let name := fields.takeWhile (· ≠ '=')
  !name.isEmpty &&
  match fields.dropWhile (· ≠ '=') with
  | '=' :: value => isFieldValue (String.ofList value)
  | _ => true

/-- Splits a text at the first closing brace that a closing bracket follows. -/
def splitAtFieldsEnd : List Char → Option (List Char × List Char)
  | [] => none
  | '}' :: ']' :: rest => some ([], rest)
  | c :: rest => (splitAtFieldsEnd rest).map fun (fs, after) => (c :: fs, after)

/-- Reads a span after its opening bracket, up to and including its closing bracket: a name,
then optionally a field list in braces closed right before the bracket. Answers whether the
span is accepted and what follows it. -/
def span (cs : List Char) : Option (Bool × List Char) :=
  let name := cs.takeWhile fun c => c ≠ '{' && c ≠ ']'
  let nameOk := name.all isNameChar
  match cs.dropWhile fun c => c ≠ '{' && c ≠ ']' with
  | ']' :: after => some (nameOk, after)
  | '{' :: rest =>
    (splitAtFieldsEnd rest).map fun (fields, after) => (nameOk && isFieldList fields, after)
  | _ => none

/-- Whether what follows a directive's selectors is accepted: nothing, or `=` and a level. -/
def isLevelPart : List Char → Bool
  | [] => true
  | '=' :: level => isLevel (String.ofList level)
  | _ => false

/-- Whether a trimmed, non-empty directive is accepted. -/
def isDirective (d : String) : Bool :=
  isLevel d ||
  let cs := d.toList
  let target := cs.takeWhile fun c => c ≠ '[' && c ≠ '='
  let targetOk := target.all isNameChar
  match cs.dropWhile fun c => c ≠ '[' && c ≠ '=' with
  | '[' :: rest =>
    match span rest with
    | some (spanOk, after) => targetOk && spanOk && isLevelPart after
    | none => false
  | rest => !target.isEmpty && targetOk && isLevelPart rest

/-- Whether a log filter is accepted: every directive between its commas, once trimmed, is empty
or accepted. -/
def isValid (filter : String) : Bool :=
  (filter.splitOn ",").all fun d => Text.trim d == "" || isDirective (Text.trim d)

/-- Parses a log filter: accepted, or refused with the parser's text. -/
def parse (filter : String) : Except String Unit :=
  if isValid filter then .ok () else .error "invalid filter directive"

end RoleSync.LogFilter
