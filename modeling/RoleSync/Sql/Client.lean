import RoleSync.Sql.Value
/-!
What a client library reports of its calls on a database: the errors of a call, and the typed
reads of a value, which refuse a value of another storage class.
-/

namespace RoleSync.Sql

set_option autoImplicit false

/-- Why a call on a connection failed, as the client library reports it. -/
inductive CallError where
  /-- The engine refused, with its message. -/
  | engine (message : String)
  /-- The engine refused a statement's text at a byte offset. -/
  | input (message sql : String) (offset : Nat)
  /-- Text followed the statement that was to run alone. -/
  | multipleStatements
  /-- A statement that was to change rows returned one. -/
  | returnedRows
  /-- A value was read as a storage class it does not have. -/
  | invalidColumnType (index : Nat) (name type : String)
  deriving DecidableEq, Repr

def CallError.message : CallError → String
  | .engine m => m
  | .input m sql offset => m ++ " in " ++ sql ++ " at offset " ++ toString offset
  | .multipleStatements => "Multiple statements provided"
  | .returnedRows => "Execute returned results - did you mean to call query?"
  | .invalidColumnType i name type =>
    "Invalid column type " ++ type ++ " at index: " ++ toString i ++ ", name: " ++ name

/-- Reads a value as text; other storage classes are refused with their name. -/
def readText (names : List String) (i : Nat) (v : Value) : Except CallError String :=
  match v with
  | .text s => .ok s
  | _ => .error (.invalidColumnType i (names.getD i "") v.typeName)

@[simp] theorem readText_text (names : List String) (i : Nat) (s : String) :
    readText names i (.text s) = .ok s := rfl

/-- Reads a value as a 64-bit integer. -/
def readInteger (names : List String) (i : Nat) (v : Value) : Except CallError Int :=
  match v with
  | .integer n => .ok n
  | _ => .error (.invalidColumnType i (names.getD i "") v.typeName)

@[simp] theorem readInteger_integer (names : List String) (i : Nat) (n : Int) :
    readInteger names i (.integer n) = .ok n := rfl

end RoleSync.Sql
