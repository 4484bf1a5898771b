import RoleSync.Text.Blank
import RoleSync.Text.Letter
/-!
Well-formed regular expressions, as a log filter's field values are written, judged the way the
matcher that compiles them into a deterministic automaton judges them.

The syntax: an alternation of sequences of items. An item is a literal character, `.`, the
anchors `^` and `$`, an escape, a bracketed class or a group, and `*`, `+`, `?` or a count
`{m}`, `{m,}`, `{m,n}` (each optionally lazy) repeats the item before it. Groups capture,
capture under a name, or set flags; a flag group `(?flags)` on its own changes the flags up to
the end of the enclosing group. With the verbose flag `x`, blanks and `#` comments are skipped.

The matcher is built without Unicode tables, so in Unicode mode (the default) the Perl classes
`\d`, `\s`, `\w`, every `\p` class, word boundaries and case-insensitive matching of anything
are refused. With Unicode mode off, matching is by bytes, and anything that could match a byte
that is not valid text is refused: `.`, a negated class, and a byte `\xHH` of 0x80 or more.

Items nest: a group or a repetition adds a level around what it holds, and so do a sequence of
two or more items, an alternation of two or more branches and a bracketed class. Patterns nested
more than 250 levels deep are refused.
-/

namespace RoleSync.LogFilter

set_option autoImplicit false

/-- Whether a character is an ASCII digit. -/
def isDigit (c : Char) : Bool := '0' ≤ c && c ≤ '9'

/-- Whether a character is a hexadecimal digit. -/
def isHexDigit (c : Char) : Bool := isDigit c || ('a' ≤ c && c ≤ 'f') || ('A' ≤ c && c ≤ 'F')

/-- The value of hexadecimal digits. -/
def hexNumber (ds : List Char) : Nat :=
  ds.foldl (fun n d =>
    n * 16 + (if isDigit d then d.toNat - 48
              else if 'a' ≤ d && d ≤ 'f' then d.toNat - 87 else d.toNat - 55)) 0

/-- The value of decimal digits. -/
def decimalNumber (ds : List Char) : Nat := ds.foldl (fun n d => n * 10 + (d.toNat - 48)) 0

/-- Whether a number is a Unicode scalar value. -/
def isScalarValue (n : Nat) : Bool := n < 0xD800 || (0xDFFF < n && n ≤ 0x10FFFF)

namespace Pattern

/-- The flags that decide how a pattern is read and matched. -/
structure Flags where
  /-- `i`: letters match in either case. -/
  caseless : Bool
  /-- `u`: matching is by characters rather than bytes. -/
  unicode : Bool
  /-- `x`: blanks and `#` comments in the pattern are skipped. -/
  verbose : Bool

/-- The flags a pattern starts with: Unicode mode only. -/
def Flags.initial : Flags := ⟨false, true, false⟩

/-- Sets or clears the flag a letter names; the letters that matter to neither reading nor
acceptance leave the flags as they are. -/
def Flags.update (fl : Flags) (c : Char) (on : Bool) : Flags :=
  if c = 'i' then { fl with caseless := on }
  else if c = 'u' then { fl with unicode := on }
  else if c = 'x' then { fl with verbose := on }
  else fl

/-- Drops blanks and comments: the flag says whether a comment is open. -/
def skipLayout : Bool → List Char → List Char
  | _, [] => []
  | true, c :: rest => if c = '\n' then skipLayout false rest else skipLayout true rest
  | false, c :: rest =>
    if Text.isBlankChar c then skipLayout false rest
    else if c = '#' then skipLayout true rest
    else c :: rest

/-- Drops the layout that verbose mode skips, and nothing otherwise. -/
def skip (fl : Flags) (cs : List Char) : List Char :=
  if fl.verbose then skipLayout false cs else cs

/-- What an escape stands for. -/
inductive Atom where
  /-- One character. -/
  | literal (c : Char)
  /-- A byte written `\xHH`: a character in Unicode mode, a raw byte otherwise. -/
  | byte (b : Nat)
  /-- One of the Perl classes `\d`, `\s`, `\w`, or a negation `\D`, `\S`, `\W`. -/
  | perl (negated : Bool)
  /-- A Unicode property class `\p…` or `\P…`. -/
  | property
  /-- A text anchor, `\A` or `\z`. -/
  | anchor
  /-- A word boundary: `\b`, `\B`, `\<`, `\>` or `\b{…}`. -/
  | boundary

/-- The characters that have a meaning of their own in a pattern. -/
def isMeta (c : Char) : Bool := "\\.+*?()|[]\x7b\x7d^$#&-~".toList.contains c

/-- Whether a character may follow a backslash to stand for itself: a meta character, or any
ASCII character other than a letter, a digit and the angle brackets. -/
def isEscapable (c : Char) : Bool :=
  isMeta c || (c.toNat < 128 && !c.isAlphanum && c ≠ '<' && c ≠ '>')

/-- Reads a code point after `\x`, `\u` or `\U`: any number of hex digits in braces, or exactly
2, 4 or 8 of them. -/
def hex (kind : Char) (cs : List Char) : Option (Atom × List Char) :=
  match cs with
  | '{' :: rest =>
    let ds := rest.takeWhile (· ≠ '}')
    match rest.dropWhile (· ≠ '}') with
    | '}' :: more =>
      if !ds.isEmpty && ds.all isHexDigit && isScalarValue (hexNumber ds) then
        some (.literal (Char.ofNat (hexNumber ds)), more)
      else none
    | _ => none
  | _ =>
    let n := if kind = 'x' then 2 else if kind = 'u' then 4 else 8
    let ds := cs.take n
    if ds.length = n && ds.all isHexDigit && isScalarValue (hexNumber ds) then
      some (if kind = 'x' then .byte (hexNumber ds) else .literal (Char.ofNat (hexNumber ds)),
        cs.drop n)
    else none

/-- Whether a character may appear in the name of a special word boundary `\b{…}`. -/
def isBoundaryNameChar (c : Char) : Bool := c.isAlpha || c = '-'

/-- Reads what follows `\b`: a special word boundary `{start}`, `{end}`, `{start-half}` or
`{end-half}`, or nothing, when the brace does not start a name and so opens a count. -/
def boundary (cs : List Char) : Option (Atom × List Char) :=
  match cs with
  | '{' :: rest =>
    match rest with
    | [] => none
    | c :: _ =>
      if !isBoundaryNameChar c then some (.boundary, cs)
      else
        let name := String.ofList (rest.takeWhile isBoundaryNameChar)
        match rest.dropWhile isBoundaryNameChar with
        | '}' :: after =>
          if ["start", "end", "start-half", "end-half"].contains name then some (.boundary, after)
          else none
        | _ => none
  | _ => some (.boundary, cs)

/-- Reads an escape after its backslash. Digits would be back-references, which are not
supported, and other letters are reserved. -/
def escape (cs : List Char) : Option (Atom × List Char) :=
  match cs with
  | [] => none
  | c :: rest =>
    if isDigit c then none
    else if c = 'x' || c = 'u' || c = 'U' then hex c rest
    else if c = 'p' || c = 'P' then
      match rest with
      | '{' :: more =>
        match more.dropWhile (· ≠ '}') with
        | '}' :: after => some (.property, after)
        | _ => none
      | _ :: after => some (.property, after)
      | [] => none
    else if c = 'd' || c = 's' || c = 'w' then some (.perl false, rest)
    else if c = 'D' || c = 'S' || c = 'W' then some (.perl true, rest)
    else if isEscapable c then some (.literal c, rest)
    else if c = 'a' then some (.literal (Char.ofNat 7), rest)
    else if c = 'f' then some (.literal (Char.ofNat 12), rest)
    else if c = 't' then some (.literal '\t', rest)
    else if c = 'n' then some (.literal '\n', rest)
    else if c = 'r' then some (.literal '\r', rest)
    else if c = 'v' then some (.literal (Char.ofNat 11), rest)
    else if c = 'A' || c = 'z' then some (.anchor, rest)
    else if c = 'b' then boundary rest
    else if c = 'B' || c = '<' || c = '>' then some (.boundary, rest)
    else none

/-- Whether a character is accepted as a literal under the flags: case-insensitive matching
needs Unicode tables in Unicode mode, and is limited to ASCII in byte mode. -/
def literalOk (fl : Flags) (c : Char) : Bool :=
  !fl.caseless || (!fl.unicode && c.toNat < 128)

/-- Whether an escape is accepted outside a class under the flags. -/
def atomOk (fl : Flags) : Atom → Bool
  | .literal c => literalOk fl c
  | .byte b => (fl.unicode || b < 128) && literalOk fl (Char.ofNat b)
  | .perl negated => !fl.unicode && !negated
  | .property => false
  | .anchor => true
  | .boundary => !fl.unicode

/-- The depth of a sequence of items, given the depths of its items: one level more than its
deepest item when there are two or more. -/
def sequenceDepth : List Nat → Nat
  | [] => 0
  | [d] => d
  | ds => 1 + ds.foldl Nat.max 0

/-- The names of the ASCII classes written `[:name:]` inside a bracket. -/
def asciiClassNames : List String :=
  ["alnum", "alpha", "ascii", "blank", "cntrl", "digit", "graph", "lower", "print", "punct",
   "space", "upper", "word", "xdigit"]

/-- Reads an ASCII class `[:name:]` or `[:^name:]` after its opening bracket, telling whether it
is negated. -/
def asciiClass (cs : List Char) : Option (Bool × List Char) :=
  match cs with
  | ':' :: rest =>
    let (negated, body) := match rest with
      | '^' :: r => (true, r)
      | r => (false, r)
    let name := body.takeWhile (· ≠ ':')
    match body.dropWhile (· ≠ ':') with
    | ':' :: ']' :: after =>
      if asciiClassNames.contains (String.ofList name) then some (negated, after) else none
    | _ => none
  | _ => none

/-- Reads one character or escape of a class. -/
def classAtom (cs : List Char) : Option (Atom × List Char) :=
  match cs with
  | [] => none
  | '\\' :: rest => escape rest
  | c :: rest => some (.literal c, rest)

/-- The character an atom stands for as one end of a range, with whether it is accepted there
under the flags: in byte mode both ends must be ASCII. -/
def rangeEnd (fl : Flags) : Atom → Option Char
  | .literal c => if fl.unicode || c.toNat < 128 then some c else none
  | .byte b => if fl.unicode || b < 128 then some (Char.ofNat b) else none
  | _ => none

/-- Whether an atom is accepted as an item of a class under the flags. -/
def classAtomOk (fl : Flags) : Atom → Bool
  | .literal c => fl.unicode || c.toNat < 128
  | .byte b => fl.unicode || b < 128
  | .perl negated => !fl.unicode && !negated
  | _ => false

/-- What stands open while a class is read. -/
inductive ClassFrame where
  /-- A bracket, with the items of the enclosing union read before it. -/
  | bracket (outer : List Nat)
  /-- A set operation, with the depth of its left operand. -/
  | operation (left : Nat)

/-- Closes the pending set operation, if any, over a right operand of the given depth. -/
def closeOperation (right : Nat) : List ClassFrame → Nat × List ClassFrame
  | .operation left :: stack => (1 + Nat.max left right, stack)
  | stack => (right, stack)

/-- Reads the rest of a class, given the depths of the items of the union being read and what
stands open; answers the depth of the whole class and what follows it. -/
def classBody (fl : Flags) : Nat → List Nat → List ClassFrame → List Char →
    Option (Nat × List Char)
  | 0, _, _, _ => none
  | n + 1, items, stack, cs =>
    match skip fl cs with
    | [] => none
    | '[' :: rest =>
      match asciiClass rest with
      | some (negated, after) =>
        if negated && !fl.unicode then none else classBody fl n (0 :: items) stack after
      | none => openBracket n items stack rest
    | ']' :: rest =>
      let (set, stack) := closeOperation (sequenceDepth items) stack
      match stack with
      | [.bracket _] => some (1 + set, rest)
      | .bracket outer :: more => classBody fl n ((1 + set) :: outer) more rest
      | _ => none
    | '&' :: '&' :: rest => operation n items stack rest
    | '-' :: '-' :: rest => operation n items stack rest
    | '~' :: '~' :: rest => operation n items stack rest
    | cs =>
      match classAtom cs with
      | none => none
      | some (first, afterFirst) =>
        match skip fl afterFirst with
        | '-' :: rest =>
          match skip fl rest with
          | ']' :: _ => if classAtomOk fl first then classBody fl n (0 :: items) stack afterFirst
                        else none
          | '-' :: _ => if classAtomOk fl first then classBody fl n (0 :: items) stack afterFirst
                        else none
          | [] => none
          | more =>
            match classAtom more with
            | none => none
            | some (last, after) =>
              match rangeEnd fl first, rangeEnd fl last with
              | some lo, some hi => if lo ≤ hi then classBody fl n (0 :: items) stack after
                                    else none
              | _, _ => none
        | _ => if classAtomOk fl first then classBody fl n (0 :: items) stack afterFirst
               else none
where
  /-- Starts a set operation over the union read so far. -/
  operation (n : Nat) (items : List Nat) (stack : List ClassFrame) (rest : List Char) :
      Option (Nat × List Char) :=
    let (left, stack) := closeOperation (sequenceDepth items) stack
    classBody fl n [] (.operation left :: stack) rest
  /-- Opens a bracket after its `[`: a caret negates it, and leading hyphens, or else a leading
  closing bracket, stand for themselves. -/
  openBracket (n : Nat) (items : List Nat) (stack : List ClassFrame) (rest : List Char) :
      Option (Nat × List Char) :=
    if fl.caseless && fl.unicode then none
    else
      let (negated, body) := match skip fl rest with
        | '^' :: r => (true, skip fl r)
        | r => (false, r)
      if negated && !fl.unicode then none
      else
        let hyphens := body.takeWhile (· = '-')
        let afterHyphens := body.dropWhile (· = '-')
        let (first, body) : List Nat × List Char :=
          if hyphens.isEmpty then
            match afterHyphens with
            | ']' :: r => ([0], r)
            | r => ([], r)
          else (hyphens.map fun _ => 0, afterHyphens)
        classBody fl n first (.bracket items :: stack) body

/-- Reads a class after its opening bracket, answering its depth and what follows it. -/
def bracketClass (fl : Flags) (cs : List Char) : Option (Nat × List Char) :=
  classBody.openBracket fl (2 * cs.length + 2) [] [] cs

/-- Collects digits, skipping the verbose layout after each. -/
def digitRun (fl : Flags) : Nat → List Char → List Char × List Char
  | 0, cs => ([], cs)
  | _, [] => ([], [])
  | n + 1, c :: rest =>
    if isDigit c then
      let (ds, after) := digitRun fl n (skip fl rest)
      (c :: ds, after)
    else ([], c :: rest)

/-- Reads a decimal number that fits in 32 bits, with blanks allowed around it, and in verbose
mode between its digits. -/
def decimal (fl : Flags) (cs : List Char) : Option (Nat × List Char) :=
  let (ds, rest) := digitRun fl cs.length (Text.dropBlank cs)
  if !ds.isEmpty && decimalNumber ds < 4294967296 then some (decimalNumber ds, Text.dropBlank rest)
  else none

/-- Reads a count after its opening brace, up to and including the closing one. -/
def counted (fl : Flags) (cs : List Char) : Option (List Char) :=
  match decimal fl (skip fl cs) with
  | none => none
  | some (lo, rest) =>
    match rest with
    | '}' :: after => some after
    | ',' :: more =>
      match skip fl more with
      | '}' :: after => some after
      | [] => none
      | other =>
        match decimal fl other with
        | some (hi, '}' :: after) => if lo ≤ hi then some after else none
        | _ => none
    | _ => none

/-- How a group opening ends: a group holding a pattern, or a flag setting on its own. -/
inductive Opening where
  | group
  | flags

/-- Reads the flags of a group after `(?`, up to `:` or `)`, applying them. Each flag is given
once, and a minus sign, given at most once, must be followed by a flag; a flag group on its own
must set something. -/
def flagGroup (fl : Flags) (seen : List Char) (negated dangling : Bool) :
    List Char → Option (Opening × Flags × List Char)
  | [] => none
  | ':' :: rest => if dangling then none else some (.group, fl, rest)
  | ')' :: rest => if seen.isEmpty || dangling then none else some (.flags, fl, rest)
  | '-' :: rest => if negated then none else flagGroup fl seen true true rest
  | c :: rest =>
    if "imsUuxR".toList.contains c && !seen.contains c then
      flagGroup (fl.update c !negated) (c :: seen) negated false rest
    else none

/-- Whether a character may start a capture group's name. -/
def isNameStart (c : Char) : Bool := c = '_' || Text.isAlphabetic c

/-- Whether a character may continue a capture group's name. -/
def isNameChar (c : Char) : Bool :=
  c = '_' || c = '.' || c = '[' || c = ']' || Text.isAlphanumeric c

/-- Reads a capture name up to its closing angle bracket. -/
def captureName (cs : List Char) : Option (String × List Char) :=
  let name := cs.takeWhile (· ≠ '>')
  match cs.dropWhile (· ≠ '>') with
  | '>' :: rest =>
    match name with
    | c :: more => if isNameStart c && more.all isNameChar then some (String.ofList name, rest)
                   else none
    | [] => none
  | _ => none

/-- A group that stands open while its body is read. -/
structure Frame where
  /-- The depths of the finished branches of the enclosing body. -/
  branches : List Nat
  /-- The depths of the items of the enclosing sequence read so far, last first. -/
  items : List Nat
  /-- The flags to restore when the group closes. -/
  saved : Flags

/-- The state of the pattern reader. -/
structure Reading where
  /-- The flags in force. -/
  flags : Flags
  /-- The groups that stand open, innermost first. -/
  groups : List Frame
  /-- The depths of the finished branches of the body being read. -/
  branches : List Nat
  /-- The depths of the items of the sequence being read, last first. -/
  items : List Nat
  /-- Whether the last item may be repeated. -/
  repeatable : Bool
  /-- The capture names met so far. -/
  names : List String

/-- The depth of the body being read: the depth of its branch when it has one, and one level
more than the deepest when it has several. -/
def Reading.bodyDepth (st : Reading) : Nat :=
  sequenceDepth (sequenceDepth st.items :: st.branches)

/-- The reading after an item of the given depth. -/
def Reading.push (st : Reading) (d : Nat) : Reading :=
  { st with items := d :: st.items, repeatable := true }

/-- The reading after a repetition of the last item. -/
def Reading.repeat (st : Reading) : Reading :=
  match st.items with
  | d :: more => { st with items := (d + 1) :: more }
  | [] => st

/-- The reading once a group opens with the given flags inside it. -/
def Reading.enter (st : Reading) (inner : Flags) : Reading :=
  { st with flags := inner, groups := ⟨st.branches, st.items, st.flags⟩ :: st.groups,
            branches := [], items := [], repeatable := false }

/-- Reads the rest of a pattern. -/
def scan : Nat → Reading → List Char → Bool
  | 0, _, _ => false
  | n + 1, st, cs =>
    match skip st.flags cs with
    | [] => st.groups.isEmpty && st.bodyDepth ≤ 250
    | '(' :: rest =>
      match skip st.flags rest with
      | '?' :: '=' :: _ => false
      | '?' :: '!' :: _ => false
      | '?' :: '<' :: '=' :: _ => false
      | '?' :: '<' :: '!' :: _ => false
      | '?' :: 'P' :: '<' :: more => named n st more
      | '?' :: '<' :: more => named n st more
      | '?' :: more =>
        match flagGroup st.flags [] false false more with
        | some (.group, inner, after) => scan n (st.enter inner) after
        | some (.flags, now, after) =>
          scan n { st with flags := now, items := 0 :: st.items, repeatable := false } after
        | none => false
      | more => scan n (st.enter st.flags) more
    | ')' :: rest =>
      match st.groups with
      | [] => false
      | f :: outer =>
        let inner := st.bodyDepth
        scan n { st with flags := f.saved, groups := outer, branches := f.branches,
                         items := (inner + 1) :: f.items, repeatable := true } rest
    | '|' :: rest =>
      scan n { st with branches := sequenceDepth st.items :: st.branches, items := [],
                       repeatable := false } rest
    | '*' :: rest => repetition n st rest
    | '+' :: rest => repetition n st rest
    | '?' :: rest => repetition n st rest
    | '{' :: rest =>
      if !st.repeatable then false
      else
        match counted st.flags rest with
        | some after =>
          match skip st.flags after with
          | '?' :: more => scan n st.repeat more
          | _ => scan n st.repeat after
        | none => false
    | '[' :: rest =>
      match bracketClass st.flags rest with
      | some (d, after) => scan n (st.push d) after
      | none => false
    | '\\' :: rest =>
      match escape rest with
      | some (atom, after) => atomOk st.flags atom && scan n (st.push 0) after
      | none => false
    | '.' :: rest => st.flags.unicode && scan n (st.push 0) rest
    | '^' :: rest => scan n (st.push 0) rest
    | '$' :: rest => scan n (st.push 0) rest
    | c :: rest => literalOk st.flags c && scan n (st.push 0) rest
where
  /-- After a repetition operator: it needs an item before it, and may be lazy. -/
  repetition (n : Nat) (st : Reading) (rest : List Char) : Bool :=
    if !st.repeatable then false
    else
      match rest with
      | '?' :: after => scan n st.repeat after
      | _ => scan n st.repeat rest
  /-- After the opening of a named group: the name must be new. -/
  named (n : Nat) (st : Reading) (rest : List Char) : Bool :=
    match captureName rest with
    | some (name, after) =>
      if st.names.contains name then false
      else scan n { st.enter st.flags with names := name :: st.names } after
    | none => false

/-- Whether a text is a pattern the matcher accepts. -/
def isValid (s : String) : Bool :=
  scan (s.length + 1) ⟨Flags.initial, [], [], [], false, []⟩ s.toList

end Pattern

end RoleSync.LogFilter
