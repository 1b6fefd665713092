import DebugRelay.Toml.Value

/-!
# Tables under construction

While a document is read, a table remembers how it came to be, because that decides whether it may
be opened again: a header may open a table that only headers below it made, and a dotted key may go
on through tables that dotted keys made.
-/

namespace DebugRelay.Toml

mutual

/-- What a key of a table under construction holds. -/
inductive Node where
  | value (v : Toml)
  | table (t : Draft)
  /-- An array of tables. -/
  | tables (ts : List Draft)

/-- A table under construction. -/
inductive Draft where
  /-- `implicit` tells that no header and no braces made the table, `dotted` that a dotted key
  did. -/
  | mk (implicit dotted : Bool) (fields : List (String × Node))

end

namespace Draft

/-- The table without fields. -/
def empty : Draft := .mk false false []

/-- Whether no header and no braces made the table. -/
def isImplicit : Draft → Bool
  | .mk implicit _ _ => implicit

/-- Whether a dotted key made the table. -/
def isDotted : Draft → Bool
  | .mk _ dotted _ => dotted

/-- What the keys hold. -/
def nodes : Draft → List (String × Node)
  | .mk _ _ fields => fields

/-- The table with other fields. -/
def withNodes : Draft → List (String × Node) → Draft
  | .mk implicit dotted _, fields => .mk implicit dotted fields

/-- What a key holds. -/
def node? (t : Draft) (key : String) : Option Node := t.nodes.lookup key

/-- Gives a key something to hold, in the place of what it held. -/
def put (t : Draft) (key : String) (n : Node) : Draft :=
  if t.nodes.any fun f => f.1 == key then
    t.withNodes (t.nodes.map fun f => if f.1 = key then (key, n) else f)
  else t.withNodes (t.nodes ++ [(key, n)])

/-- Takes a key out. -/
def drop (t : Draft) (key : String) : Draft :=
  t.withNodes (t.nodes.filter fun f => f.1 != key)

/-- Changes the table at a path, and makes the tables on the way that are missing. An array of
tables is entered at its last element. With `dotted`, the path is that of a dotted key, which may
not go through a table that something else made. -/
def descend {α : Type} (dotted : Bool) (change : Draft → Option (Draft × α)) :
    List String → Draft → Option (Draft × α)
  | [], t => change t
  | key :: rest, t =>
    match t.node? key with
    | none => do
      let (inner, x) ← descend dotted change rest (.mk true dotted [])
      some (t.put key (.table inner), x)
    | some (.value _) => none
    | some (.tables ts) =>
      match ts.getLast? with
      | none => none
      | some last => do
        let (inner, x) ← descend dotted change rest last
        some (t.put key (.tables (ts.dropLast ++ [inner])), x)
    | some (.table inner) =>
      if dotted && !inner.isImplicit then none
      else do
        let (inner, x) ← descend dotted change rest inner
        some (t.put key (.table inner), x)

/-- Gives the key at a path a value, which it must not have yet. A table that a header made and one
that dotted keys made do not mix. -/
def set (t : Draft) (path : List String) (v : Toml) : Option Draft :=
  match path.getLast? with
  | none => none
  | some key =>
    let parents := path.dropLast
    (descend true (fun inner =>
      -- a lone key may not go into a table that dotted keys made, a dotted key only into such
      if inner.isDotted == parents.isEmpty then none
      else
        match inner.node? key with
        | some _ => none
        | none => some (inner.put key (.value v), ())) parents t).map (·.1)

/-- Gives the keys at several paths values. -/
def setAll (t : Draft) (pairs : List (List String × Toml)) : Option Draft :=
  pairs.foldlM (fun t p => t.set p.1 p.2) t

/-- Opens the table at a path for a header, and takes it out of its place. Only a table that
headers below it made may be there already. -/
def open? (t : Draft) (path : List String) : Option (Draft × Draft) :=
  match path.getLast? with
  | none => none
  | some key =>
    descend false (fun parent =>
      match parent.node? key with
      | none => some (parent, .empty)
      | some (.table inner) =>
        if inner.isImplicit && !inner.isDotted then
          -- the table keeps what headers below it put in, and counts as opened from now on
          some (parent.drop key, .mk false false inner.nodes)
        else none
      | some _ => none) path.dropLast t

/-- Puts a table into its place at a path. -/
def place (t : Draft) (path : List String) (current : Draft) : Option Draft :=
  match path.getLast? with
  | none => none
  | some key =>
    (descend false (fun parent =>
      match parent.node? key with
      | none => some (parent.put key (.table current), ())
      | some _ => none) path.dropLast t).map (·.1)

/-- Makes sure that there is an array of tables at a path. -/
def openArray (t : Draft) (path : List String) : Option Draft :=
  match path.getLast? with
  | none => none
  | some key =>
    (descend false (fun parent =>
      match parent.node? key with
      | none => some (parent.put key (.tables []), ())
      | some (.tables _) => some (parent, ())
      | some _ => none) path.dropLast t).map (·.1)

/-- Puts a table at the end of the array of tables at a path. -/
def push (t : Draft) (path : List String) (current : Draft) : Option Draft :=
  match path.getLast? with
  | none => none
  | some key =>
    (descend false (fun parent =>
      match parent.node? key with
      | none => some (parent.put key (.tables [current]), ())
      | some (.tables ts) => some (parent.put key (.tables (ts ++ [current])), ())
      | some _ => none) path.dropLast t).map (·.1)

mutual

/-- What a key holds, as data. -/
def nodeValue : Node → Toml
  | .value v => v
  | .table t => .table t.fields
  | .tables ts => .array (tableValues ts)

/-- The fields of the finished table. -/
def fields : Draft → List (String × Toml)
  | .mk _ _ nodes => fieldValues nodes

/-- Several finished tables. -/
def tableValues : List Draft → List Toml
  | [] => []
  | t :: rest => .table t.fields :: tableValues rest

/-- Several fields, as data. -/
def fieldValues : List (String × Node) → List (String × Toml)
  | [] => []
  | (key, n) :: rest => (key, nodeValue n) :: fieldValues rest

end

end Draft

end DebugRelay.Toml
