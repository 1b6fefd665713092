import DebugRelay.Command
import DebugRelay.Json.Record

/-!
# Breakpoints and commands in JSON

Locations and breakpoints are records. A command is a record tagged by `command`. Reading a path
looks it up in the files at hand, so that a value that was read is in normal form.
-/

namespace DebugRelay

open Json

/-- A source file as JSON: its path. -/
def SourceFile.toJson (f : SourceFile) : Json := .str f.text

/-- Reads a source file from an absolute path. -/
def SourceFile.ofJson? (files : FileTree) : Decoder SourceFile := fun j =>
  (text? j).bind (locate? files)

/-- A word of 32 bits as JSON. -/
def Json.ofWord32 (n : UInt32) : Json := nat n.toNat

/-- A word of 64 bits as JSON. -/
def Json.ofWord64 (n : UInt64) : Json := nat n.toNat

/-- A location as JSON. -/
def Location.toJson (l : Location) : Json :=
  .obj [("file", l.file.toJson), ("line", ofOption ofWord32 l.line)]

/-- Reads a location. -/
def Location.ofJson? (files : FileTree) : Decoder Location := fun j => do
  let r ← record? ["file", "line"] j
  some {
    file := ← r.required "file" (SourceFile.ofJson? files)
    line := ← r.optional "line" word32? }

/-- A breakpoint as JSON. -/
def Breakpoint.toJson (b : Breakpoint) : Json :=
  .obj [
    ("file", b.file.toJson),
    ("line", ofOption ofWord32 b.line),
    ("condition", ofOption .str b.condition),
    ("hit_count", ofWord32 b.hitCount),
    ("temporary", .bool b.temporary),
    ("enabled", .bool b.enabled),
    ("marker", ofOption ofWord64 b.marker)]

/-- Reads a breakpoint. -/
def Breakpoint.ofJson? (files : FileTree) : Decoder Breakpoint := fun j => do
  let r ← record?
    ["file", "line", "condition", "hit_count", "temporary", "enabled", "marker"] j
  some {
    file := ← r.required "file" (SourceFile.ofJson? files)
    line := ← r.optional "line" word32?
    condition := ← r.optional "condition" text?
    hitCount := ← r.required "hit_count" word32?
    temporary := ← r.required "temporary" bool?
    enabled := ← r.required "enabled" bool?
    marker := ← r.defaulted "marker" none (Record.nullable word64?) }

/-- A command as JSON. -/
def Command.toJson : Command → Json
  | .suspendOnStartup enabled =>
    .obj [("command", .str "set_suspend_on_startup"), ("enabled", .bool enabled)]
  | .suspendOnScriptLoad enabled =>
    .obj [("command", .str "set_suspend_on_script_load"), ("enabled", .bool enabled)]
  | .setBreak b => .obj [("command", .str "set_break"), ("breakpoint", b.toJson)]
  | .clearFile f => .obj [("command", .str "clear_file_breaks"), ("file", f.toJson)]
  | .stepInto => .obj [("command", .str "step_into")]
  | .stepOver => .obj [("command", .str "step_over")]
  | .stepOut => .obj [("command", .str "step_out")]
  | .continue_ => .obj [("command", .str "continue")]
  | .quit => .obj [("command", .str "quit")]

/-- The commands without arguments by their names. -/
def Command.plain : List (String × Command) :=
  [("step_into", .stepInto), ("step_over", .stepOver), ("step_out", .stepOut),
    ("continue", .continue_), ("quit", .quit)]

/-- Reads a command. -/
def Command.ofJson? (files : FileTree) : Decoder Command := fun j => do
  let (tag, rest) ← tagged? "command" j
  match tag with
  | "set_suspend_on_startup" =>
    let r ← record? ["enabled"] rest
    some (.suspendOnStartup (← r.required "enabled" bool?))
  | "set_suspend_on_script_load" =>
    let r ← record? ["enabled"] rest
    some (.suspendOnScriptLoad (← r.required "enabled" bool?))
  | "set_break" =>
    let r ← record? ["breakpoint"] rest
    some (.setBreak (← r.required "breakpoint" (Breakpoint.ofJson? files)))
  | "clear_file_breaks" =>
    let r ← record? ["file"] rest
    some (.clearFile (← r.required "file" (SourceFile.ofJson? files)))
  | tag =>
    let _ ← record? [] rest
    plain.lookup tag

end DebugRelay
