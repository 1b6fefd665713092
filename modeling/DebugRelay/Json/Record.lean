import DebugRelay.Json.Value

/-!
# Reading records from JSON values

A record is written as an object with named fields or as an array of its fields in order. A named
field may stand anywhere but only once, and names that the record does not have are passed over. An
array may stop early where the fields left have defaults. A tagged record has one field more, which
names the variant and stands first in an array.
-/

namespace DebugRelay.Json

/-- Reads a value of a type from a JSON value. -/
abbrev Decoder (α : Type) := Json → Option α

/-- The fields of a record as a JSON value gives them. -/
structure Record where
  /-- Whether the fields were given by position. -/
  listed : Bool
  /-- The value given for each field of the record, if any. -/
  given : List (String × Option Json)

/-- The one field of a name: missing, there, or refused because it is repeated. -/
def single? (fields : List (String × Json)) (name : String) : Option (Option Json) :=
  match fields.filter fun f => f.1 == name with
  | [] => some none
  | [f] => some (some f.2)
  | _ => none

/-- The record with the given field names. `overlong` lets an array have more items than the record
has fields; those are passed over. -/
def recordOf? (overlong : Bool) (names : List String) : Decoder Record
  | .obj fields => do
    some ⟨false, ← names.mapM fun name => (single? fields name).map fun j => (name, j)⟩
  | .arr items =>
    if overlong || decide (items.length ≤ names.length) then
      some ⟨true, names.zip (items.map some ++ List.replicate (names.length - items.length) none)⟩
    else none
  | _ => none

/-- The record with the given field names, none of whose parts is passed over in an array. -/
def record? (names : List String) : Decoder Record := recordOf? false names

namespace Record

variable {α : Type}

/-- What was given for a field. -/
def given? (r : Record) (name : String) : Option Json :=
  (r.given.find? fun f => f.1 == name).bind (·.2)

/-- A field that has to be given. -/
def required (r : Record) (name : String) (decode : Decoder α) : Option α :=
  (r.given? name).bind decode

/-- A field with a default for when it is not given. -/
def defaulted (r : Record) (name : String) (default : α) (decode : Decoder α) : Option α :=
  match r.given? name with
  | none => some default
  | some j => decode j

/-- A value or null. -/
def nullable (decode : Decoder α) : Decoder (Option α)
  | .null => some none
  | j => (decode j).map some

/-- A field that may be null, and may be left out of an object but not of an array. -/
def optional (r : Record) (name : String) (decode : Decoder α) : Option (Option α) :=
  match r.given? name with
  | none => if r.listed then none else some none
  | some j => nullable decode j

end Record

/-! ## Scalars -/

/-- A text. -/
def text? : Decoder String
  | .str s => some s
  | _ => none

/-- A truth value. -/
def bool? : Decoder Bool
  | .bool b => some b
  | _ => none

/-- A whole number from zero up to a bound that it does not reach. -/
def below? (bound : Nat) : Decoder Nat
  | .num (.whole n) => if 0 ≤ n ∧ n < bound then some n.toNat else none
  | _ => none

/-- A whole number of 32 bits. -/
def word32? : Decoder UInt32 := fun j => (below? UInt32.size j).map UInt32.ofNat

/-- A whole number of 64 bits. -/
def word64? : Decoder UInt64 := fun j => (below? UInt64.size j).map UInt64.ofNat

/-- One of some named values: its name, or an object with its name and null. -/
def oneOf? {α : Type} (values : List (String × α)) : Decoder α
  | .str name => values.lookup name
  | .obj [(name, .null)] => values.lookup name
  | _ => none

/-- The tag of a tagged record and the record without it. All of the value has to be readable. -/
def tagged? (tag : String) : Decoder (String × Json) := fun j =>
  if j.isReadable then
    match j with
    | .obj fields =>
      match single? fields tag with
      | some (some (.str name)) => some (name, .obj (fields.filter fun f => f.1 != tag))
      | _ => none
    | .arr (.str name :: rest) => some (name, .arr rest)
    | _ => none
  else none

end DebugRelay.Json
