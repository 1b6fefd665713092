import DebugRelay.Script
import DebugRelay.Wire.Breakpoint

/-!
# Scripts and frames in JSON

A source is a record tagged by `type`. The local variables of a frame are an object of any values.
-/

namespace DebugRelay

open Json

/-- An identifier as JSON. -/
def Uuid.toJson (u : Uuid) : Json := .str u.text

/-- Reads an identifier. -/
def Uuid.ofJson? : Decoder Uuid := fun j => (text? j).bind ofText?

/-- A source as JSON. -/
def Source.toJson : Source → Json
  | .file path => .obj [("type", .str "file"), ("path", path.toJson)]
  | .inline code => .obj [("type", .str "inline"), ("code", .str code)]

/-- Reads a source. -/
def Source.ofJson? (files : FileTree) : Decoder Source := fun j => do
  let (tag, rest) ← tagged? "type" j
  match tag with
  | "file" =>
    let r ← record? ["path"] rest
    some (.file (← r.required "path" (SourceFile.ofJson? files)))
  | "inline" =>
    let r ← record? ["code"] rest
    some (.inline (← r.required "code" text?))
  | _ => none

/-- A script as JSON. -/
def Script.toJson (s : Script) : Json :=
  .obj [("id", s.id.toJson), ("source", s.source.toJson)]

/-- Reads a script. -/
def Script.ofJson? (files : FileTree) : Decoder Script := fun j => do
  let r ← record? ["id", "source"] j
  some {
    id := ← r.required "id" Uuid.ofJson?
    source := ← r.required "source" (Source.ofJson? files) }

/-- Local variables as JSON. -/
def localsToJson (locals : OrderedMap String Json) : Json := .obj locals.entries

/-- Reads local variables: an object of readable values. -/
def localsOfJson? : Decoder (OrderedMap String Json)
  | .obj fields => (canonicalFields? fields).map OrderedMap.ofList
  | _ => none

/-- A frame as JSON. -/
def Frame.toJson (f : Frame) : Json :=
  .obj [
    ("name", .str f.name),
    ("line", ofWord32 f.line),
    ("locals", localsToJson f.locals),
    ("script", f.script.toJson)]

/-- Reads a frame. -/
def Frame.ofJson? (files : FileTree) : Decoder Frame := fun j => do
  let r ← record? ["name", "line", "locals", "script"] j
  some {
    name := ← r.required "name" text?
    line := ← r.required "line" word32?
    locals := ← r.required "locals" localsOfJson?
    script := ← r.required "script" (Script.ofJson? files) }

end DebugRelay
