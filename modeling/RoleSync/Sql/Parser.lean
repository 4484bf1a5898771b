import RoleSync.Sql.Token
import RoleSync.Sql.Syntax
/-!
Reading SQL statements from tokens, by recursive descent.

Operators bind in the usual order, from loosest to tightest: OR; AND; NOT; the equality family
(`=`, `==`, `!=`, `<>`, IS, IN, LIKE, GLOB, BETWEEN, ISNULL, NOTNULL); the comparisons; the bit
operators; `+` and `-`; `*`, `/` and `%`; `||`; COLLATE; and the prefix operators. A text that
is not a statement is refused near the token where reading stopped, or as incomplete input when
it ends early.

Every reader takes a fuel argument that falls by one at each call; the statement reader gives it
a multiple of the number of tokens, which no well-formed statement exhausts.
-/

namespace RoleSync.Sql

set_option autoImplicit false

/-- The words that cannot stand as names unless quoted. -/
def reservedWords : List String :=
  ["add", "all", "alter", "and", "as", "autoincrement", "between", "case", "check", "collate",
   "commit", "constraint", "create", "cross", "default", "deferrable", "delete", "distinct",
   "drop", "else", "escape", "except", "exists", "foreign", "from", "full", "group", "having",
   "in", "index", "inner", "insert", "intersect", "into", "is", "isnull", "join", "left",
   "limit", "natural", "not", "nothing", "notnull", "null", "on", "or", "order", "outer",
   "primary", "references", "returning", "right", "select", "set", "table", "then", "to",
   "transaction", "union", "unique", "update", "using", "values", "when", "where", "window"]

/-- Where the reader stands: the tokens left, the text's characters, the end of the last token
taken, how many anonymous parameters have been met, and the text that starts no token after the
last one, if any. -/
structure Cursor where
  rest : List Lexeme
  chars : Array Char
  lastStop : Nat
  params : Nat
  /-- The text after the last token, when it starts no token. -/
  unrecognized : Option Unrecognized

/-- A reader of statements. -/
abbrev Reader := StateT Cursor (Except Failure)

/-- The text between two character indices. -/
def spanText (chars : Array Char) (start stop : Nat) : String :=
  String.ofList ((chars.toList.drop start).take (stop - start))

/-- Refuses the text at the current token. -/
def syntaxError {α : Type} : Reader α := do
  let c ← get
  match c.rest with
  | l :: _ =>
    throw (.prepare ("near \"" ++ spanText c.chars l.start l.stop ++ "\": syntax error")
      (some l.offset))
  | [] =>
    match c.unrecognized with
    | some u => throw (.prepare ("unrecognized token: \"" ++ u.text ++ "\"") (some u.offset))
    | none => throw (.prepare "incomplete input" none)

/-- The current token, if any. -/
def peek : Reader (Option Lexeme) := do return (← get).rest.head?

/-- The token after the current one, if any. -/
def peekSecond : Reader (Option Lexeme) := do return ((← get).rest.drop 1).head?

/-- Moves past the current token. -/
def advance : Reader Unit :=
  modify fun c => match c.rest with
    | l :: more => { c with rest := more, lastStop := l.stop }
    | [] => c

/-- Whether a token is a given keyword, in any case. -/
def Token.isWord (kw : String) : Token → Bool
  | .word w => foldAscii w == kw
  | _ => false

/-- Whether a token is a given symbol. -/
def Token.isSymbol (s : String) : Token → Bool
  | .symbol t => t == s
  | _ => false

/-- Whether the current token is a keyword. -/
def atWord (kw : String) : Reader Bool := do
  return ((← peek).map fun l => l.token.isWord kw).getD false

/-- Whether the token after the current one is a keyword. -/
def secondIsWord (kw : String) : Reader Bool := do
  return ((← peekSecond).map fun l => l.token.isWord kw).getD false

/-- Whether the current token is a symbol. -/
def atSymbol (s : String) : Reader Bool := do
  return ((← peek).map fun l => l.token.isSymbol s).getD false

/-- Takes a keyword if it stands next. -/
def acceptWord (kw : String) : Reader Bool := do
  if ← atWord kw then advance; return true else return false

/-- Takes a symbol if it stands next. -/
def acceptSymbol (s : String) : Reader Bool := do
  if ← atSymbol s then advance; return true else return false

/-- Takes a keyword that must stand next. -/
def expectWord (kw : String) : Reader Unit := do
  if ← acceptWord kw then pure () else syntaxError

/-- Takes a symbol that must stand next. -/
def expectSymbol (s : String) : Reader Unit := do
  if ← acceptSymbol s then pure () else syntaxError

/-- Whether a token can be a name: a word that is not reserved, a quoted name or a string. -/
def Token.name? : Token → Option (String × Bool)
  | .word w => if reservedWords.contains (foldAscii w) then none else some (w, false)
  | .quoted t dq => some (t, dq)
  | .string t => some (t, false)
  | _ => none

/-- Reads a name, with its byte offset and whether it was double-quoted. -/
def name : Reader (String × Nat × Bool) := do
  match ← peek with
  | some l =>
    match l.token.name? with
    | some (t, dq) => advance; return (t, l.offset, dq)
    | none => syntaxError
  | none => syntaxError

/-- Reads a name that may be qualified by a schema, keeping the last part. -/
def qualifiedName : Reader (String × Nat) := do
  let (n, off, _) ← name
  if ← atSymbol "." then
    advance
    let (n2, off2, _) ← name
    return (n2, off2)
  else return (n, off)

/-- The value of a number literal: hex digits as a 64-bit pattern, a decimal integer that fits
in 64 bits, or a double. -/
def numberValue (text : String) : Except Failure Value :=
  match text.toList with
  | '0' :: x :: ds =>
    if x = 'x' || x = 'X' then
      let sig := ds.dropWhile (· = '0')
      if 16 < sig.length then .error (.prepare ("hex literal too big: " ++ text) none)
      else
        let u := ds.foldl (fun v d => v * 16 + hexDigitValue d) 0
        .ok (.integer (if u < Double.signWeight then (u : Int) else (u : Int) - 18446744073709551616))
    else decimal
  | _ => decimal
where
  /-- A decimal literal. -/
  decimal : Except Failure Value :=
    match numberOfText? text false with
    | some v => .ok v
    | none => .error (.prepare ("malformed number: " ++ text) none)

/-- The collation named by a word. -/
def collationNamed (n : String) : Reader Collation := do
  match Collation.ofName? n with
  | some c => return c
  | none => throw (.prepare ("no such collation sequence: " ++ n) none)

/-- The number of the parameter a parameter token names, counting anonymous ones in order. -/
def parameterIndex (text : String) : Reader Nat := do
  let c ← get
  match text.toList with
  | '?' :: ds =>
    if ds.isEmpty then
      set { c with params := c.params + 1 }
      return c.params + 1
    else
      let v := ds.foldl (fun v d => v * 10 + (d.toNat - 48)) 0
      set { c with params := max c.params v }
      return v
  | _ =>
    set { c with params := c.params + 1 }
    return c.params + 1

/-- The equality-family operators that a NOT may precede. -/
def negatableWords : List String := ["in", "like", "glob", "match", "regexp", "between", "null"]

/-- The keywords that may start a query. -/
def startsQuery (t : Token) : Bool := t.isWord "select" || t.isWord "values" || t.isWord "with"

/-- Whether the token after the current one is a symbol. -/
def secondIsSymbol (s : String) : Reader Bool := do
  return ((← peekSecond).map fun l => l.token.isSymbol s).getD false

/-- The words that end a type name. -/
def typeStopWords : List String :=
  ["constraint", "primary", "not", "null", "unique", "check", "default", "collate", "references",
   "generated", "as", "on", "autoincrement"]

/-- Takes the words of a type name. -/
def typeWords : Nat → Reader Unit
  | 0 => pure ()
  | k + 1 => do
    match ← peek with
    | some ⟨.word w, _, _, _⟩ =>
      if typeStopWords.contains (foldAscii w) then pure () else do advance; typeWords k
    | some ⟨.quoted _ _, _, _, _⟩ => do advance; typeWords k
    | _ => pure ()

/-- Takes tokens up to and including a closing parenthesis. -/
def skipToClose : Nat → Reader Unit
  | 0 => syntaxError
  | k + 1 => do
    if ← acceptSymbol ")" then pure ()
    else if (← peek).isNone then syntaxError
    else do advance; skipToClose k

/-- A type name: words, then optionally numbers in parentheses, as the text it was written
with. -/
def typeName : Reader String := do
  let start := ((← peek).map (·.start)).getD 0
  typeWords ((← get).rest.length)
  if ← acceptSymbol "(" then skipToClose ((← get).rest.length + 1)
  let c ← get
  return if c.lastStop ≤ start then "" else spanText c.chars start c.lastStop

mutual

/-- Reads an expression. -/
def expr : Nat → Reader Expr
  | 0 => syntaxError
  | n + 1 => orLevel n

/-- OR, loosest of all. -/
def orLevel : Nat → Reader Expr
  | 0 => syntaxError
  | n + 1 => do
    let lhs ← andLevel n
    orMore n lhs

/-- The OR operands after the first. -/
def orMore : Nat → Expr → Reader Expr
  | 0, _ => syntaxError
  | n + 1, lhs => do
    if ← acceptWord "or" then
      let rhs ← andLevel n
      orMore n (.binary .or lhs rhs)
    else return lhs

/-- AND. -/
def andLevel : Nat → Reader Expr
  | 0 => syntaxError
  | n + 1 => do
    let lhs ← notLevel n
    andMore n lhs

/-- The AND operands after the first. -/
def andMore : Nat → Expr → Reader Expr
  | 0, _ => syntaxError
  | n + 1, lhs => do
    if ← acceptWord "and" then
      let rhs ← notLevel n
      andMore n (.binary .and lhs rhs)
    else return lhs

/-- Prefix NOT. -/
def notLevel : Nat → Reader Expr
  | 0 => syntaxError
  | n + 1 => do
    if ← acceptWord "not" then return .unary .not (← notLevel n)
    else equalityLevel n

/-- The equality family. -/
def equalityLevel : Nat → Reader Expr
  | 0 => syntaxError
  | n + 1 => do
    let lhs ← comparisonLevel n
    equalityMore n lhs

/-- The equality-family operators after an operand. -/
def equalityMore : Nat → Expr → Reader Expr
  | 0, _ => syntaxError
  | n + 1, lhs => do
    if (← acceptSymbol "=") || (← acceptSymbol "==") then
      equalityMore n (.binary .eq lhs (← comparisonLevel n))
    else if (← acceptSymbol "!=") || (← acceptSymbol "<>") then
      equalityMore n (.binary .ne lhs (← comparisonLevel n))
    else if ← acceptWord "is" then
      let negated ← acceptWord "not"
      let distinct ← if ← atWord "distinct" then do
          advance; expectWord "from"; pure true
        else pure false
      let rhs ← comparisonLevel n
      let op := if negated != distinct then BinaryOp.isNot else BinaryOp.is
      equalityMore n (.binary op lhs rhs)
    else if ← acceptWord "isnull" then equalityMore n (.isNull lhs false)
    else if ← acceptWord "notnull" then equalityMore n (.isNull lhs true)
    else
      let negated ← do
        match ← peek, ← peekSecond with
        | some a, some b =>
          if a.token.isWord "not" && negatableWords.any (fun w => b.token.isWord w) then
            advance; pure true
          else pure false
        | _, _ => pure false
      if ← acceptWord "null" then
        if negated then equalityMore n (.isNull lhs true) else syntaxError
      else if ← acceptWord "between" then
        let low ← comparisonLevel n
        expectWord "and"
        let high ← comparisonLevel n
        equalityMore n (.between lhs low high negated)
      else if ← acceptWord "in" then
        expectSymbol "("
        match ← peek with
        | some l =>
          if startsQuery l.token then
            let q ← query n
            expectSymbol ")"
            equalityMore n (.inQuery lhs q negated)
          else if l.token.isSymbol ")" then
            advance
            equalityMore n (.inList lhs [] negated)
          else
            let items ← exprList n
            expectSymbol ")"
            equalityMore n (.inList lhs items negated)
        | none => syntaxError
      else if (← atWord "like") || (← atWord "glob") || (← atWord "match") ||
          (← atWord "regexp") then
        let glob ← atWord "glob"
        advance
        let pattern ← comparisonLevel n
        let escape ← if ← acceptWord "escape" then some <$> comparisonLevel n else pure none
        equalityMore n (.like lhs pattern escape glob negated)
      else if negated then syntaxError
      else return lhs

/-- The comparisons. -/
def comparisonLevel : Nat → Reader Expr
  | 0 => syntaxError
  | n + 1 => do
    let lhs ← bitLevel n
    comparisonMore n lhs

/-- The comparison operators after an operand. -/
def comparisonMore : Nat → Expr → Reader Expr
  | 0, _ => syntaxError
  | n + 1, lhs => do
    if ← acceptSymbol "<" then comparisonMore n (.binary .lt lhs (← bitLevel n))
    else if ← acceptSymbol "<=" then comparisonMore n (.binary .le lhs (← bitLevel n))
    else if ← acceptSymbol ">" then comparisonMore n (.binary .gt lhs (← bitLevel n))
    else if ← acceptSymbol ">=" then comparisonMore n (.binary .ge lhs (← bitLevel n))
    else return lhs

/-- The bit operators. -/
def bitLevel : Nat → Reader Expr
  | 0 => syntaxError
  | n + 1 => do
    let lhs ← additiveLevel n
    bitMore n lhs

/-- The bit operators after an operand. -/
def bitMore : Nat → Expr → Reader Expr
  | 0, _ => syntaxError
  | n + 1, lhs => do
    if ← acceptSymbol "&" then bitMore n (.binary .bitAnd lhs (← additiveLevel n))
    else if ← acceptSymbol "|" then bitMore n (.binary .bitOr lhs (← additiveLevel n))
    else if ← acceptSymbol "<<" then bitMore n (.binary .shiftLeft lhs (← additiveLevel n))
    else if ← acceptSymbol ">>" then bitMore n (.binary .shiftRight lhs (← additiveLevel n))
    else return lhs

/-- Addition and subtraction. -/
def additiveLevel : Nat → Reader Expr
  | 0 => syntaxError
  | n + 1 => do
    let lhs ← multiplicativeLevel n
    additiveMore n lhs

/-- The additive operators after an operand. -/
def additiveMore : Nat → Expr → Reader Expr
  | 0, _ => syntaxError
  | n + 1, lhs => do
    if ← acceptSymbol "+" then additiveMore n (.binary .add lhs (← multiplicativeLevel n))
    else if ← acceptSymbol "-" then additiveMore n (.binary .sub lhs (← multiplicativeLevel n))
    else return lhs

/-- Multiplication, division and remainder. -/
def multiplicativeLevel : Nat → Reader Expr
  | 0 => syntaxError
  | n + 1 => do
    let lhs ← concatLevel n
    multiplicativeMore n lhs

/-- The multiplicative operators after an operand. -/
def multiplicativeMore : Nat → Expr → Reader Expr
  | 0, _ => syntaxError
  | n + 1, lhs => do
    if ← acceptSymbol "*" then multiplicativeMore n (.binary .mul lhs (← concatLevel n))
    else if ← acceptSymbol "/" then multiplicativeMore n (.binary .div lhs (← concatLevel n))
    else if ← acceptSymbol "%" then multiplicativeMore n (.binary .rem lhs (← concatLevel n))
    else return lhs

/-- Concatenation, and the JSON operators -> and ->> beside it. -/
def concatLevel : Nat → Reader Expr
  | 0 => syntaxError
  | n + 1 => do
    let lhs ← collateLevel n
    concatMore n lhs

/-- The concatenations after an operand. -/
def concatMore : Nat → Expr → Reader Expr
  | 0, _ => syntaxError
  | n + 1, lhs => do
    if ← acceptSymbol "||" then concatMore n (.binary .concat lhs (← collateLevel n))
    else if ← acceptSymbol "->" then concatMore n (.call "->" [lhs, ← collateLevel n] false false 0)
    else if ← acceptSymbol "->>" then concatMore n (.call "->>" [lhs, ← collateLevel n] false false 0)
    else return lhs

/-- COLLATE after an operand. -/
def collateLevel : Nat → Reader Expr
  | 0 => syntaxError
  | n + 1 => do
    let e ← unaryLevel n
    collateMore n e

/-- The collations after an operand. -/
def collateMore : Nat → Expr → Reader Expr
  | 0, _ => syntaxError
  | n + 1, e => do
    if ← acceptWord "collate" then
      let (c, _, _) ← name
      collateMore n (.collate e (← collationNamed c))
    else return e

/-- The prefix operators. A minus before the literal 9223372036854775808 makes the smallest
integer. -/
def unaryLevel : Nat → Reader Expr
  | 0 => syntaxError
  | n + 1 => do
    if ← acceptSymbol "-" then
      match ← peek with
      | some ⟨.number "9223372036854775808", _, _, _⟩ =>
        advance; return .literal (.integer Double.minInt)
      | _ => return .unary .negate (← unaryLevel n)
    else if ← acceptSymbol "+" then return .unary .plus (← unaryLevel n)
    else if ← acceptSymbol "~" then return .unary .bitNot (← unaryLevel n)
    else primary n

/-- An operand: a literal, a parameter, a parenthesized expression or subquery, CAST, CASE,
EXISTS, a function call or a column. -/
def primary : Nat → Reader Expr
  | 0 => syntaxError
  | n + 1 => do
    match ← peek with
    | none => syntaxError
    | some l =>
      match l.token with
      | .number t =>
        advance
        match numberValue t with
        | .ok v => return .literal v
        | .error e => throw e
      | .string t => advance; return .literal (.text t)
      | .blob b => advance; return .literal (.blob b)
      | .parameter t => advance; return .parameter (← parameterIndex t)
      | .symbol "(" =>
        advance
        match ← peek with
        | some l2 =>
          if startsQuery l2.token then
            let q ← query n
            expectSymbol ")"
            return .scalar q
          else
            let e ← expr n
            expectSymbol ")"
            return e
        | none => syntaxError
      | .quoted t dq =>
        advance
        columnTail n t l.offset dq
      | .word w =>
        let kw := foldAscii w
        if kw = "null" then advance; return .literal .null
        else if kw = "cast" && (← secondIsSymbol "(") then
          advance; advance
          let e ← expr n
          expectWord "as"
          let t ← typeName
          expectSymbol ")"
          return .cast e t
        else if kw = "case" then
          advance
          let operand ← if ← atWord "when" then pure none else some <$> expr n
          let arms ← whenArms n
          let otherwise ← if ← acceptWord "else" then some <$> expr n else pure none
          expectWord "end"
          return .cases operand arms otherwise
        else if kw = "exists" then
          advance
          expectSymbol "("
          let q ← query n
          expectSymbol ")"
          return .exists q
        else if kw = "not" then
          advance
          return .unary .not (← notLevel n)
        else if kw = "current_time" || kw = "current_date" || kw = "current_timestamp" then
          advance
          return .call kw [] false false l.offset
        else if ← secondIsSymbol "(" then
          advance; advance
          if ← acceptSymbol "*" then
            expectSymbol ")"
            return .call w [] true false l.offset
          else if ← acceptSymbol ")" then
            return .call w [] false false l.offset
          else
            let distinct ← acceptWord "distinct"
            let args ← exprList n
            expectSymbol ")"
            return .call w args false distinct l.offset
        else if reservedWords.contains kw then syntaxError
        else
          advance
          columnTail n w l.offset false
      | _ => syntaxError

/-- After a name in an expression: a qualified column, or the name itself as a column. -/
def columnTail : Nat → String → Nat → Bool → Reader Expr
  | 0, _, _, _ => syntaxError
  | _ + 1, first, offset, dq => do
    if (← atSymbol ".") && !(← secondIsSymbol "*") then
      advance
      let (col, off, dq2) ← name
      return .column (some first) col off dq2
    else return .column none first offset dq

/-- The WHEN arms of a CASE. -/
def whenArms : Nat → Reader (List (Expr × Expr))
  | 0 => syntaxError
  | n + 1 => do
    if ← acceptWord "when" then
      let c ← expr n
      expectWord "then"
      let r ← expr n
      return (c, r) :: (← whenArms n)
    else return []

/-- Expressions separated by commas. -/
def exprList : Nat → Reader (List Expr)
  | 0 => syntaxError
  | n + 1 => do
    let e ← expr n
    if ← acceptSymbol "," then return e :: (← exprList n) else return [e]

/-- Reads a query. -/
def query : Nat → Reader Query
  | 0 => syntaxError
  | n + 1 => do
    if ← atWord "with" then throw (.prepare "common table expressions are not supported" none)
    let body ← queryBody n
    let orderBy ← if ← acceptWord "order" then do expectWord "by"; orderTerms n else pure []
    if ← acceptWord "limit" then
      let a ← expr n
      if ← acceptWord "offset" then return .mk body orderBy (some a) (some (← expr n))
      else if ← acceptSymbol "," then return .mk body orderBy (some (← expr n)) (some a)
      else return .mk body orderBy (some a) none
    else return .mk body orderBy none none

/-- Terms of an ORDER BY, each with whether it is descending. -/
def orderTerms : Nat → Reader (List (Expr × Bool))
  | 0 => syntaxError
  | n + 1 => do
    let e ← expr n
    let desc ← if ← acceptWord "desc" then pure true
      else do let _ ← acceptWord "asc"; pure false
    if ← acceptWord "nulls" then
      if !(← acceptWord "first") && !(← acceptWord "last") then syntaxError
    if ← acceptSymbol "," then return (e, desc) :: (← orderTerms n) else return [(e, desc)]

/-- A query body: selections joined by compound operators. -/
def queryBody : Nat → Reader QueryBody
  | 0 => syntaxError
  | n + 1 => do
    let first ← queryCore n
    compoundMore n first

/-- The compound operators after a selection. -/
def compoundMore : Nat → QueryBody → Reader QueryBody
  | 0, _ => syntaxError
  | n + 1, lhs => do
    if ← acceptWord "union" then
      let op := if ← acceptWord "all" then CompoundOp.unionAll else CompoundOp.union
      compoundMore n (.compound op lhs (← queryCore n))
    else if ← acceptWord "intersect" then
      compoundMore n (.compound .intersect lhs (← queryCore n))
    else if ← acceptWord "except" then
      compoundMore n (.compound .except lhs (← queryCore n))
    else return lhs

/-- A SELECT or a VALUES list. -/
def queryCore : Nat → Reader QueryBody
  | 0 => syntaxError
  | n + 1 => do
    if ← acceptWord "values" then return .values (← valueRows n)
    expectWord "select"
    let distinct ← if ← acceptWord "distinct" then pure true
      else do let _ ← acceptWord "all"; pure false
    let columns ← resultColumns n
    let source ← if ← acceptWord "from" then some <$> source n else pure none
    let filter ← if ← acceptWord "where" then some <$> expr n else pure none
    let groupBy ← if ← acceptWord "group" then do expectWord "by"; exprList n else pure []
    let having ← if ← acceptWord "having" then some <$> expr n else pure none
    return .select distinct columns source filter groupBy having

/-- Rows of a VALUES list. -/
def valueRows : Nat → Reader (List (List Expr))
  | 0 => syntaxError
  | n + 1 => do
    expectSymbol "("
    let row ← exprList n
    expectSymbol ")"
    if ← acceptSymbol "," then return row :: (← valueRows n) else return [row]

/-- The result columns of a selection. -/
def resultColumns : Nat → Reader (List ResultColumn)
  | 0 => syntaxError
  | n + 1 => do
    let col ← resultColumn n
    if ← acceptSymbol "," then return col :: (← resultColumns n) else return [col]

/-- One result column, with the text of its expression. -/
def resultColumn : Nat → Reader ResultColumn
  | 0 => syntaxError
  | n + 1 => do
    if ← acceptSymbol "*" then return .all
    match ← peek, ← peekSecond with
    | some a, some b =>
      if b.token.isSymbol "." && (((← get).rest.drop 2).head?.map (·.token.isSymbol "*")).getD false then
        match a.token.name? with
        | some (t, _) => advance; advance; advance; return .allOf t
        | none => syntaxError
      else resultExpr n
    | _, _ => resultExpr n

/-- A result expression and its alias. -/
def resultExpr : Nat → Reader ResultColumn
  | 0 => syntaxError
  | n + 1 => do
    let start := ((← peek).map (·.start)).getD 0
    let e ← expr n
    let c ← get
    let text := spanText c.chars start c.lastStop
    if ← acceptWord "as" then
      let (a, _, _) ← name
      return .expr e (some a) text
    else
      match ← peek with
      | some l =>
        match l.token with
        | .word w =>
          if reservedWords.contains (foldAscii w) then return .expr e none text
          else advance; return .expr e (some w) text
        | .quoted t _ => advance; return .expr e (some t) text
        | .string t => advance; return .expr e (some t) text
        | _ => return .expr e none text
      | none => return .expr e none text

/-- A source: tables and subqueries joined. -/
def source : Nat → Reader Source
  | 0 => syntaxError
  | n + 1 => do
    let first ← sourceItem n
    joinMore n first

/-- The joins after a source. -/
def joinMore : Nat → Source → Reader Source
  | 0, _ => syntaxError
  | n + 1, lhs => do
    if ← acceptSymbol "," then
      joinMore n (.join lhs .inner (← sourceItem n) none)
    else
      let natural ← acceptWord "natural"
      let kind ← if ← acceptWord "left" then do
          let _ ← acceptWord "outer"; pure (some JoinKind.left)
        else if (← acceptWord "inner") || (← acceptWord "cross") then pure (some JoinKind.inner)
        else if ← atWord "join" then pure (some JoinKind.inner)
        else pure none
      match kind with
      | none => if natural then syntaxError else return lhs
      | some k =>
        expectWord "join"
        let rhs ← sourceItem n
        if natural then throw (.prepare "natural joins are not supported" none)
        let on ← if ← acceptWord "on" then some <$> expr n
          else if ← atWord "using" then throw (.prepare "joins with USING are not supported" none)
          else pure none
        joinMore n (.join lhs k rhs on)

/-- A table, view or subquery, with its alias. -/
def sourceItem : Nat → Reader Source
  | 0 => syntaxError
  | n + 1 => do
    if ← acceptSymbol "(" then
      let q ← query n
      expectSymbol ")"
      return .query q (← sourceAlias n)
    else
      let (t, off) ← qualifiedName
      let given ← sourceAlias n
      if ← acceptWord "indexed" then do expectWord "by"; discard name
      else if (← atWord "not") && (← secondIsWord "indexed") then do advance; advance
      return .table t given off

/-- The alias of a source, if one stands next. -/
def sourceAlias : Nat → Reader (Option String)
  | 0 => syntaxError
  | _ + 1 => do
    if ← acceptWord "as" then
      let (a, _, _) ← name
      return some a
    else
      match ← peek with
      | some l =>
        match l.token with
        | .word w =>
          if reservedWords.contains (foldAscii w) || foldAscii w = "indexed" then return none
          else advance; return some w
        | .quoted t _ => advance; return some t
        | _ => return none
      | none => return none

end

end RoleSync.Sql
