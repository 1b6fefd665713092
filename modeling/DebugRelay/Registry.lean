import DebugRelay.Breakpoint
import DebugRelay.OrderedMap

/-!
# The breakpoint registry

The registry holds the breakpoints that the IDE wants: one at most at each location, in the order
of files and lines. It also knows which location each marker of the IDE owns, so that a breakpoint
whose line changed replaces its former entry.

`put` inserts, updates or moves an entry, `remove` and `removeOwned` take one out, and `unload`
takes out all entries of a file.
-/

namespace DebugRelay

/-- The breakpoints that are wanted, and the locations that markers own. -/
structure Registry where
  /-- The breakpoint wanted at each location. -/
  entries : OrderedMap Location Breakpoint
  /-- The location that each marker owns. -/
  owners : OrderedMap UInt64 Location
  deriving DecidableEq

/-- What putting a breakpoint into the registry did. -/
inductive Registry.Change where
  /-- The location was free. -/
  | inserted
  /-- The entry at the location got other attributes. -/
  | updated
  /-- The entry at the location had these attributes already. -/
  | unchanged
  /-- The marker's entry elsewhere was replaced; it is given as it was. -/
  | moved (previous : Breakpoint)
  deriving DecidableEq

namespace Registry

/-- The registry without breakpoints. -/
def empty : Registry := ⟨∅, ∅⟩

instance : Inhabited Registry := ⟨empty⟩

/-- The number of entries. -/
def size (r : Registry) : Nat := r.entries.size

/-- The breakpoint at a location. -/
def find? (r : Registry) (l : Location) : Option Breakpoint := r.entries.find? l

/-- The breakpoints of a file in line order. -/
def ofFile (r : Registry) (f : SourceFile) : List Breakpoint :=
  r.entries.values.filter fun b => b.file = f

/-- The enabled breakpoints of a file in line order. -/
def enabledOf (r : Registry) (f : SourceFile) : List Breakpoint :=
  r.entries.values.filter fun b => b.enabled && b.file = f

/-- All enabled breakpoints in the order of their locations. -/
def enabled (r : Registry) : List Breakpoint :=
  r.entries.values.filter (·.enabled)

/-- Clears a location: its entry goes, and every marker that owned it owns nothing. -/
def clear (r : Registry) (l : Location) : Registry where
  entries := r.entries.erase l
  owners := r.owners.filter fun _ owned => owned ≠ l

/-- Makes a marker the owner of a location. -/
def own (r : Registry) (marker : Option UInt64) (l : Location) : Registry :=
  match marker with
  | some m => { r with owners := r.owners.insert m l }
  | none => r

/-- The location that a marker owns, if it is not the given one. -/
def ownedElsewhere? (r : Registry) (marker : Option UInt64) (l : Location) : Option Location :=
  (marker.bind r.owners.find?).filter (· ≠ l)

/-- Puts a breakpoint at its location. An entry that is there keeps its owner and takes over the
attributes. A breakpoint whose marker owns another location replaces that entry instead, and takes
the place of what is at the new location. -/
def put (r : Registry) (b : Breakpoint) : Registry × Change :=
  let l := b.location
  match r.ownedElsewhere? b.marker l with
  | some former =>
    let cleared := (r.clear former).own b.marker l
    ({ cleared with entries := cleared.entries.insert l b },
      match r.find? former with
      | some previous => .moved previous
      | none => .inserted)
  | none =>
    let r := r.own b.marker l
    match r.find? l with
    | some existing =>
      let updated := existing.updateFrom b
      if updated = existing then (r, .unchanged)
      else ({ r with entries := r.entries.insert l updated }, .updated)
    | none => ({ r with entries := r.entries.insert l b }, .inserted)

/-- Takes out the entry at a location, if there is one. -/
def remove (r : Registry) (l : Location) : Registry × Option Breakpoint :=
  (r.clear l, r.find? l)

/-- The location that a removal of a breakpoint is about: the one its marker owns, else its own. -/
def removalTarget (r : Registry) (b : Breakpoint) : Location :=
  (b.marker.bind r.owners.find?).getD b.location

/-- Takes out the entry that a breakpoint's marker owns, or the entry at its location if the marker
owns nothing. -/
def removeOwned (r : Registry) (b : Breakpoint) : Registry × Option Breakpoint :=
  r.remove (r.removalTarget b)

/-- Takes out every entry of a file and returns them in line order. -/
def unload (r : Registry) (f : SourceFile) : Registry × List Breakpoint :=
  let locations := r.entries.keys.filter fun l => l.file = f
  (locations.foldl clear r, locations.filterMap r.find?)

end Registry

end DebugRelay
