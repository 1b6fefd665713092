import DebugRelay.Json.Value

/-!
# TOML values

`Toml` is the data that a TOML document holds. Floats and points in time keep their literals.
-/

namespace DebugRelay

/-- A TOML value. -/
inductive Toml where
  | string (s : String)
  | integer (n : Int)
  | float (literal : String)
  | boolean (b : Bool)
  | datetime (literal : String)
  | array (items : List Toml)
  | table (fields : List (String × Toml))

instance : Inhabited Toml := ⟨.table []⟩

namespace Toml

mutual

/-- The value as a JSON value with the same records. A float has no counterpart that a record of
texts and truth values could use, and a point in time is a record without fields of theirs. -/
def toJson : Toml → Json
  | string s => .str s
  | integer n => .num (.whole n)
  | float _ => .unreadable
  | boolean b => .bool b
  | datetime _ => .obj []
  | array items => .arr (itemsToJson items)
  | table fields => .obj (fieldsToJson fields)

/-- The items of an array as JSON values. -/
def itemsToJson : List Toml → List Json
  | [] => []
  | v :: rest => v.toJson :: itemsToJson rest

/-- The fields of a table as JSON values. -/
def fieldsToJson : List (String × Toml) → List (String × Json)
  | [] => []
  | (key, v) :: rest => (key, v.toJson) :: fieldsToJson rest

end

end Toml

end DebugRelay
