/-!
TOML values: the tree that a TOML document stands for. A table keeps its keys in the order they
were written; a float and a date-time are kept as their text, since the settings read from a
document never need their value.
-/

namespace RoleSync.Toml

set_option autoImplicit false

/-- A TOML value. -/
inductive Value where
  | string (s : String)
  | integer (i : Int)
  | float (text : String)
  | boolean (b : Bool)
  | datetime (text : String)
  | array (items : List Value)
  | table (entries : List (String × Value))

namespace Value

/-- The value under a key of a table; none for a missing key or a value that is no table. -/
def get? (v : Value) (key : String) : Option Value :=
  match v with
  | .table entries => (entries.find? (·.1 = key)).map (·.2)
  | _ => none

/-- The empty table. -/
def emptyTable : Value := .table []

end Value

end RoleSync.Toml
