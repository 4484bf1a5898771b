import RoleSync.Rule.Error
/-!
Predicates: a small language in which a rule's predicate is written, or a function given whole.
A script sees the platform context of the user and, for strong rules, the verified identity; it
can produce roles, fill role names from templates, fail, panic, pause on the clock, branch on a
field, or choose a stage by how many times the predicate ran before.

Running a script gives a *run*: the pauses it makes, in order, and how it ends. The pauses are
what a scheduler needs; the ending is what the executor checks.
-/

namespace RoleSync

set_option autoImplicit false

/-- The platform attributes that a predicate may read. -/
structure Context where
  userId : String
  displayName : String
  discriminator : String
  deriving DecidableEq, Repr

/-- A field that a script condition reads. -/
inductive Field where
  | userId
  | displayName
  | discriminator
  | identity
  deriving DecidableEq, Repr

/-- How a field value is compared with a text. -/
inductive Comparison where
  | equals (text : String)
  | contains (text : String)
  | startsWith (text : String)
  deriving DecidableEq, Repr

/-- A test on one field. -/
structure Condition where
  field : Field
  test : Comparison
  deriving DecidableEq, Repr

/-- How a run of a predicate ends. -/
inductive Ending where
  | roles (names : List String)
  | error (e : RuleError)
  | panic (payload : Option String)
  deriving DecidableEq, Repr

/-- A run: the pauses, in order, and the ending. -/
structure Run where
  pauses : List Nat
  ending : Ending
  deriving DecidableEq, Repr

/-- A predicate, written as data or given as a function. -/
inductive Script where
  /-- Produce exactly these role names. -/
  | roles (names : List String)
  /-- Produce these patterns with the context and identity filled in. -/
  | template (patterns : List String)
  /-- Report a failure. -/
  | fail (message : String)
  /-- Report malformed roles. -/
  | malformed (message : String)
  /-- Panic; the payload is a text, or none for a payload that is not text. -/
  | panic (payload : Option String)
  /-- Pause for this many milliseconds, then go on. -/
  | sleep (ms : Nat) (next : Script)
  /-- Run the stage chosen by the number of earlier invocations, the last one once past the end. -/
  | seq (stages : List Script)
  /-- Run one of two scripts by a condition. -/
  | branch (test : Condition) (yes no : Script)
  /-- A predicate given as a function: its run for a context, an identity and the number of
  earlier invocations, with a bound on the number of its pauses. It may end in any way, any
  error included. -/
  | custom (run : Context → Option String → Nat → Run) (bound : Nat)
      (bounded : ∀ ctx identity n, (run ctx identity n).pauses.length ≤ bound)

/-- Whether a character list occurs contiguously inside another. -/
def occursIn (p : List Char) : List Char → Bool
  | [] => p.isEmpty
  | c :: cs => p.isPrefixOf (c :: cs) || occursIn p cs

/-- The text that stands for a missing identity in a template. -/
def missingIdentity : String := "<none>"

/-- Fills a template: each placeholder is replaced everywhere, in the order user id, display
name, discriminator, identity. -/
def fillTemplate (ctx : Context) (identity : Option String) (pattern : String) : String :=
  ((((pattern.replace "\x7buser_id\x7d" ctx.userId).replace "\x7bdisplay_name\x7d"
    ctx.displayName).replace "\x7bdiscriminator\x7d" ctx.discriminator).replace
    "\x7bidentity\x7d" (identity.getD missingIdentity))

/-- The value of a field; a missing identity has none. -/
def Field.read (ctx : Context) (identity : Option String) : Field → Option String
  | .userId => some ctx.userId
  | .displayName => some ctx.displayName
  | .discriminator => some ctx.discriminator
  | .identity => identity

/-- Whether a value passes a comparison. -/
def Comparison.holds (value : String) : Comparison → Bool
  | .equals t => value == t
  | .contains t => occursIn t.toList value.toList
  | .startsWith t => t.toList.isPrefixOf value.toList

/-- A condition holds when its field has a value that passes the comparison. -/
def Condition.holds (c : Condition) (ctx : Context) (identity : Option String) : Bool :=
  match c.field.read ctx identity with
  | some v => c.test.holds v
  | none => false

mutual

/-- Runs a script for a context, an identity (none for weak rules) and the number of earlier
invocations of the predicate. -/
def Script.run (ctx : Context) (identity : Option String) (n : Nat) : Script → Run
  | .roles names => ⟨[], .roles names⟩
  | .template patterns => ⟨[], .roles (patterns.map (fillTemplate ctx identity))⟩
  | .fail m => ⟨[], .error (.failed m)⟩
  | .malformed m => ⟨[], .error (.malformed m)⟩
  | .panic p => ⟨[], .panic p⟩
  | .sleep ms next =>
    let r := Script.run ctx identity n next
    ⟨ms :: r.pauses, r.ending⟩
  | .seq stages => Script.runStage ctx identity n stages n
  | .branch c yes no =>
    if c.holds ctx identity then Script.run ctx identity n yes else Script.run ctx identity n no
  | .custom run _ _ => run ctx identity n

/-- Runs stage number k of a stage list, the last stage when k is past it; an empty list
produces no roles. -/
def Script.runStage (ctx : Context) (identity : Option String) (n : Nat) :
    List Script → Nat → Run
  | [], _ => ⟨[], .roles []⟩
  | [s], _ => Script.run ctx identity n s
  | s :: _ :: _, 0 => Script.run ctx identity n s
  | _ :: t :: rest, k + 1 => Script.runStage ctx identity n (t :: rest) k

end

mutual

/-- The most pauses that any run of a script can make. -/
def Script.pauseBound : Script → Nat
  | .sleep _ next => Script.pauseBound next + 1
  | .seq stages => Script.stageBound stages
  | .branch _ yes no => max (Script.pauseBound yes) (Script.pauseBound no)
  | .custom _ bound _ => bound
  | _ => 0

/-- The most pauses that a run of any of the stages can make. -/
def Script.stageBound : List Script → Nat
  | [] => 0
  | s :: rest => max (Script.pauseBound s) (Script.stageBound rest)

end

mutual

theorem Script.pauses_run_le (ctx : Context) (identity : Option String) (n : Nat) :
    ∀ s : Script, (Script.run ctx identity n s).pauses.length ≤ s.pauseBound
  | .roles _ => by simp [Script.run]
  | .template _ => by simp [Script.run]
  | .fail _ => by simp [Script.run]
  | .malformed _ => by simp [Script.run]
  | .panic _ => by simp [Script.run]
  | .sleep _ next => by
    have h := Script.pauses_run_le ctx identity n next
    simp only [Script.run, Script.pauseBound, List.length_cons]
    omega
  | .seq stages => by
    simp only [Script.run, Script.pauseBound]
    exact Script.pauses_runStage_le ctx identity n stages n
  | .branch _ yes no => by
    have hy := Script.pauses_run_le ctx identity n yes
    have hn := Script.pauses_run_le ctx identity n no
    simp only [Script.run, Script.pauseBound]
    split <;> omega
  | .custom run bound bounded => bounded ctx identity n

theorem Script.pauses_runStage_le (ctx : Context) (identity : Option String) (n : Nat) :
    ∀ (stages : List Script) (k : Nat),
      (Script.runStage ctx identity n stages k).pauses.length ≤ Script.stageBound stages
  | [], _ => by simp [Script.runStage]
  | [s], _ => by
    have h := Script.pauses_run_le ctx identity n s
    simp only [Script.runStage, Script.stageBound]
    omega
  | s :: t :: rest, 0 => by
    have h := Script.pauses_run_le ctx identity n s
    simp only [Script.runStage, Script.stageBound]
    omega
  | s :: t :: rest, k + 1 => by
    have h := Script.pauses_runStage_le ctx identity n (t :: rest) k
    simp only [Script.runStage, Script.stageBound] at h ⊢
    omega

end

end RoleSync
