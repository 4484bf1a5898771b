/-!
Cache failures. A store is unavailable, holds corrupt data, or rejects a value; each kind has
one fixed text. A fault plan says, per store method, which failure a call returns instead of
running: it lets a store's outages be described as data.
-/

namespace RoleSync

set_option autoImplicit false

/-- Why a cache call failed. -/
inductive CacheError where
  | unavailable (message : String)
  | corrupt (message : String)
  | invalidValue (message : String)
  deriving DecidableEq, Repr

/-- The text of a cache failure. -/
def CacheError.message : CacheError → String
  | .unavailable m => "cache backend unavailable: " ++ m
  | .corrupt m => "cache backend corruption: " ++ m
  | .invalidValue m => "cache value rejected: " ++ m

/-- The methods of a cache store. -/
inductive StoreMethod where
  | get
  | replace
  | delete
  | indexAdd
  | indexDrain
  deriving DecidableEq, Repr

/-- For each store method, the failure that its next call returns instead of touching the store,
and the answers planned for the calls after that one. -/
structure Faults where
  get : Option CacheError := none
  replace : Option CacheError := none
  delete : Option CacheError := none
  indexAdd : Option CacheError := none
  indexDrain : Option CacheError := none
  /-- Answers of later calls in the order they are given: a call of a method makes the first one
  queued for it the method's next answer. -/
  later : List (StoreMethod × Option CacheError) := []
  deriving DecidableEq, Repr

namespace Faults

/-- The planned answer of a method's next call. -/
def of (f : Faults) : StoreMethod → Option CacheError
  | .get => f.get
  | .replace => f.replace
  | .delete => f.delete
  | .indexAdd => f.indexAdd
  | .indexDrain => f.indexDrain

/-- Plans an answer for a method's next call. -/
def set (f : Faults) : StoreMethod → Option CacheError → Faults
  | .get, a => { f with get := a }
  | .replace, a => { f with replace := a }
  | .delete, a => { f with delete := a }
  | .indexAdd, a => { f with indexAdd := a }
  | .indexDrain, a => { f with indexDrain := a }

/-- The plan after a call of a method: the method's next answer is the first one queued for it,
or stays as it was when none is queued. -/
def advance (f : Faults) (m : StoreMethod) : Faults :=
  match f.later.find? (·.1 == m) with
  | some (_, a) => { f.set m a with later := f.later.eraseP (·.1 == m) }
  | none => f

/-- The plan in which nothing fails. -/
def none : Faults := {}

@[simp] theorem advance_none (m : StoreMethod) : Faults.none.advance m = Faults.none := rfl

theorem advance_of_later (f : Faults) (m : StoreMethod) (h : f.later = []) : f.advance m = f := by
  simp [advance, h]

theorem of_set_of_ne (f : Faults) {m n : StoreMethod} (a : Option CacheError) (h : n ≠ m) :
    (f.set m a).of n = f.of n := by
  cases m <;> cases n <;> first | exact absurd rfl h | rfl

/-- A call of one method leaves the next answers of the others as planned. -/
theorem of_advance_of_ne (f : Faults) {m n : StoreMethod} (h : n ≠ m) :
    (f.advance m).of n = f.of n := by
  unfold advance
  split
  · exact f.of_set_of_ne _ h
  · rfl

example : (({ get := some (.unavailable "down"), later := [(.get, Option.none)] } : Faults).advance
    .get).get = Option.none := rfl

/-- The plan after calls of the given methods, in order. -/
def after (f : Faults) (ms : List StoreMethod) : Faults := ms.foldl advance f

/-- Calls of other methods leave a method's next answer as planned. -/
theorem of_after (f : Faults) {ms : List StoreMethod} {n : StoreMethod} (h : n ∉ ms) :
    (f.after ms).of n = f.of n := by
  induction ms generalizing f with
  | nil => rfl
  | cons m ms ih =>
    simp only [List.mem_cons, not_or] at h
    show ((f.advance m).after ms).of n = f.of n
    rw [ih _ h.2, of_advance_of_ne f h.1]

-- the second calls of a write and of an invalidation
@[simp] theorem indexAdd_advance_replace (f : Faults) :
    (f.advance .replace).indexAdd = f.indexAdd :=
  f.of_advance_of_ne (n := .indexAdd) (by decide)

@[simp] theorem delete_advance_indexDrain (f : Faults) :
    (f.advance .indexDrain).delete = f.delete :=
  f.of_advance_of_ne (n := .delete) (by decide)

end Faults

end RoleSync
