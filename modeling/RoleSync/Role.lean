import Std.Data.TreeSet
import Std.Data.TreeMap.Lemmas
/-!
Names and the two standard roles. Every user that passes the permission check holds the role
"_known"; a user whose verified identity was disclosed also holds "_identified". No rule may
produce either name.

Sets of names (role names, platform role ids, community ids, rule names) are kept in byte order,
which is the order of their code points.
-/

namespace RoleSync

set_option autoImplicit false

/-- A finite set of names, ordered by code point. -/
abbrev NameSet := Std.TreeSet String compare

/-- The roles that the library itself grants, never a rule. -/
inductive StandardRole where
  | known
  | identified
  deriving DecidableEq, Repr

namespace StandardRole

/-- Both standard roles, in their order of declaration. -/
def all : List StandardRole := [known, identified]

/-- The name under which a standard role appears in role sets and mappings. -/
def name : StandardRole → String
  | known => "_known"
  | identified => "_identified"

/-- The standard role with exactly this name, if any. -/
def ofName? (s : String) : Option StandardRole := all.find? fun r => r.name == s

end StandardRole

/-- A name is standard when it is exactly the name of a standard role. -/
def isStandardName (s : String) : Bool := (StandardRole.ofName? s).isSome

theorem isStandardName_iff (s : String) :
    isStandardName s = true ↔ s = "_known" ∨ s = "_identified" := by
  simp only [isStandardName, StandardRole.ofName?, StandardRole.all, StandardRole.name]
  by_cases h1 : "_known" = s
  · subst h1; simp
  · by_cases h2 : "_identified" = s
    · subst h2; simp
    · have e1 : ("_known" == s) = false := beq_eq_false_iff_ne.mpr h1
      have e2 : ("_identified" == s) = false := beq_eq_false_iff_ne.mpr h2
      simp only [List.find?_cons, e1, e2, List.find?_nil, Option.isSome_none,
        Bool.false_eq_true, false_iff, not_or]
      exact ⟨Ne.symm h1, Ne.symm h2⟩

/-- The set of the given names. -/
def NameSet.ofList (xs : List String) : NameSet := Std.TreeSet.ofList xs compare

/-- A table that holds every value under its own name, as `key` reads it. -/
def KeyedBy {α : Type} (key : α → String) (table : Std.TreeMap String α compare) : Prop :=
  ∀ k v, table.get? k = some v → key v = k

namespace KeyedBy

variable {α : Type} {key : α → String} {table : Std.TreeMap String α compare}

theorem empty (key : α → String) : KeyedBy key (∅ : Std.TreeMap String α compare) :=
  fun _ _ h => by simp at h

theorem insert (h : KeyedBy key table) (v : α) : KeyedBy key (table.insert (key v) v) := by
  intro k v' hv'
  rw [Std.TreeMap.get?_eq_getElem?, Std.TreeMap.getElem?_insert] at hv'
  split at hv'
  · rename_i hk
    cases hv'
    exact Std.LawfulEqCmp.compare_eq_iff_eq.mp hk
  · exact h k v' (by rwa [Std.TreeMap.get?_eq_getElem?])

/-- Inserting values under their own names keeps a table keyed. -/
theorem foldl_insert (vs : List α) (h : KeyedBy key table) :
    KeyedBy key (vs.foldl (fun t v => t.insert (key v) v) table) := by
  induction vs generalizing table with
  | nil => exact h
  | cons v rest ih => exact ih (h.insert v)

end KeyedBy

end RoleSync
