import DebugRelay.OrderedMap

/-!
# JSON values

`Json` is the tree that a JSON text spells. An object keeps its fields in the order written, so a
repeated name stays visible to a reader that refuses it. A part of a text that has the form of a
value but denotes none is kept as `unreadable`: it does no harm where a reader passes over it.

`Json.canonical?` gives the value as data: names of an object sorted, the last of equal names kept,
nothing unreadable.
-/

namespace DebugRelay

/-- A JSON number: a whole number, or a finite double given by its bits. -/
inductive Json.Number where
  | whole (n : Int)
  | double (bits : UInt64)
  deriving DecidableEq

/-- A JSON value. -/
inductive Json where
  | null
  | bool (b : Bool)
  | num (n : Json.Number)
  | str (s : String)
  | arr (items : List Json)
  | obj (fields : List (String × Json))
  /-- The form of a value without a value: a lone surrogate, a number beyond the range, or
  containers nested too deeply. -/
  | unreadable

instance : Inhabited Json := ⟨.null⟩

namespace Json

/-- A natural number as a value. -/
def nat (n : Nat) : Json := .num (.whole n)

/-- A value that may be missing, which is then null. -/
def ofOption {α : Type} (toJson : α → Json) : Option α → Json
  | none => .null
  | some x => toJson x

/-- The field of an object that a name refers to: the last one of that name. -/
def field? (name : String) : Json → Option Json
  | .obj fields => (fields.reverse.find? fun f => f.1 == name).map (·.2)
  | _ => none

mutual

/-- The value as data, if all of it is readable. -/
def canonical? : Json → Option Json
  | .arr items => (canonicalItems? items).map .arr
  | .obj fields => (canonicalFields? fields).map fun fs => .obj (OrderedMap.ofList fs).entries
  | .unreadable => none
  | j => some j

/-- The items of an array as data. -/
def canonicalItems? : List Json → Option (List Json)
  | [] => some []
  | j :: rest => do
    let j ← canonical? j
    let rest ← canonicalItems? rest
    some (j :: rest)

/-- The fields of an object as data, in the order written. -/
def canonicalFields? : List (String × Json) → Option (List (String × Json))
  | [] => some []
  | (name, j) :: rest => do
    let j ← canonical? j
    let rest ← canonicalFields? rest
    some ((name, j) :: rest)

end

/-- Whether every part of a value denotes something. -/
def isReadable (j : Json) : Bool := j.canonical?.isSome

end Json

end DebugRelay
