import DebugRelay.Session
import DebugRelay.Wire.Script

/-!
# Session data in JSON

The states, step kinds and stop reasons by their names, the counters of the dispatch loop, and what
is shown of a session.
-/

namespace DebugRelay

open Json

/-- The name of a value in a table of named values. -/
def Json.nameIn {α : Type} [DecidableEq α] (table : List (String × α)) (x : α) : Json :=
  match table.find? fun row => row.2 = x with
  | some (name, _) => .str name
  | none => .null

/-- The step kinds by name. -/
def StepKind.names : List (String × StepKind) :=
  [("step_into", .stepInto), ("step_over", .stepOver), ("step_return", .stepOut),
    ("resume", .resume), ("client_request", .client)]

/-- The stop reasons by name. -/
def StopReason.names : List (String × StopReason) :=
  [("breakpoint", .breakpoint), ("step_end", .stepEnd), ("startup", .startup),
    ("script_load", .scriptLoad), ("client_request", .client)]

/-- The states of a target by name. -/
def Target.State.names : List (String × Target.State) :=
  [("Created", .created), ("Running", .running), ("Suspended", .suspended),
    ("Terminated", .terminated)]

/-- A step kind as JSON. -/
def StepKind.toJson (k : StepKind) : Json := nameIn names k

/-- Reads a step kind. -/
def StepKind.ofJson? : Decoder StepKind := oneOf? names

/-- A stop reason as JSON. -/
def StopReason.toJson (r : StopReason) : Json := nameIn names r

/-- Reads a stop reason. -/
def StopReason.ofJson? : Decoder StopReason := oneOf? names

/-- A state of a target as JSON. -/
def Target.State.toJson (s : Target.State) : Json := nameIn names s

/-- Reads a state of a target. -/
def Target.State.ofJson? : Decoder Target.State := oneOf? names

/-- The counters of a dispatch loop as JSON. -/
def Dispatch.Statistics.toJson (s : Statistics) : Json :=
  .obj [
    ("delivered", ofWord64 s.delivered),
    ("dropped_after_close", ofWord64 s.droppedAfterClose),
    ("processor_failures", ofWord64 s.processorFailures)]

/-- Reads the counters of a dispatch loop. -/
def Dispatch.Statistics.ofJson? : Decoder Statistics := fun j => do
  let r ← record? ["delivered", "dropped_after_close", "processor_failures"] j
  some {
    delivered := ← r.required "delivered" word64?
    droppedAfterClose := ← r.required "dropped_after_close" word64?
    processorFailures := ← r.required "processor_failures" word64? }

/-- An instant as JSON. -/
def Instant.toJson (t : Instant) : Json := .str t.text

/-- Reads an instant. -/
def Instant.ofJson? : Decoder Instant := fun j => (text? j).bind ofText?

/-- What is shown of a session as JSON. -/
def Session.Info.toJson (i : Info) : Json :=
  .obj [
    ("id", i.id.toJson),
    ("target_name", .str i.targetName),
    ("started_at", i.startedAt.toJson),
    ("state", i.state.toJson),
    ("breakpoints", ofWord64 i.breakpoints)]

/-- Reads what is shown of a session. -/
def Session.Info.ofJson? : Decoder Info := fun j => do
  let r ← record? ["id", "target_name", "started_at", "state", "breakpoints"] j
  some {
    id := ← r.required "id" Uuid.ofJson?
    targetName := ← r.required "target_name" text?
    startedAt := ← r.required "started_at" Instant.ofJson?
    state := ← r.required "state" Target.State.ofJson?
    breakpoints := ← r.required "breakpoints" word64? }

end DebugRelay
