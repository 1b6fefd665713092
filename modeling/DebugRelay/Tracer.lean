import DebugRelay.Command

/-!
# The tracer

A `Tracer` is the debugger that a line-tracing interpreter carries in its trace hook. The engine
reports each entered frame, each line and each left frame. `Tracer.line` decides whether a line
stops the script; a stopped thread stays parked until `Tracer.wake?` finds that a command released
it. Conditions are stored and not evaluated.

Everything here is one atomic step of the tracer. What a step has to tell the outside is part of
its result: `enter` names the file whose breakpoints are wanted, and `line` the reason of a stop.
-/

namespace DebugRelay

/-- What the engine does after a traced line. -/
inductive Outcome where
  | continue_
  /-- Abort the script. -/
  | quit
  deriving DecidableEq

/-- Where the tracer stops besides breakpoints. -/
inductive Tracer.Mode where
  /-- Nowhere. -/
  | free
  /-- At the next line. -/
  | into
  /-- At the next line at this depth or above it. -/
  | atOrAbove (depth : Nat)
  /-- At the next line above this depth. -/
  | above (depth : Nat)
  deriving DecidableEq

/-- A breakpoint in the tracer's table. -/
structure Tracer.Planted where
  condition : Option String
  /-- How many hits are still to be ignored. -/
  ignore : UInt32
  temporary : Bool
  /-- How often the line was reached; counts modulo `2 ^ 32`. -/
  hits : UInt32
  deriving DecidableEq

/-- A line of a file. -/
structure Tracer.Spot where
  file : SourceFile
  line : UInt32
  deriving DecidableEq

namespace Tracer.Spot

/-- Spots are ordered by file and then by line. -/
instance : Ord Spot := ⟨compareLex (compareOn Spot.file) (compareOn Spot.line)⟩

instance : Std.TransOrd Spot :=
  inferInstanceAs (Std.TransCmp (compareLex (compareOn Spot.file) (compareOn Spot.line)))

instance : Std.LawfulEqOrd Spot where
  compare_self {a} := by
    change compareLex (compareOn Spot.file) (compareOn Spot.line) a a = .eq
    simp [compareLex, compareOn]
  eq_of_compare {a b} h := by
    change compareLex (compareOn Spot.file) (compareOn Spot.line) a b = .eq at h
    rw [compareLex_eq_eq] at h
    obtain ⟨file, line⟩ := a
    obtain ⟨file', line'⟩ := b
    have hf : file = file' := Std.compare_eq_iff_eq.1 h.1
    have hl : line = line' := Std.compare_eq_iff_eq.1 h.2
    subst hf hl
    rfl

end Tracer.Spot

/-- The state of a tracer. -/
structure Tracer where
  /-- Whether someone listens to its stops and script loads. -/
  observed : Bool := false
  /-- Whether the first line stops. -/
  stopsAtStart : Bool := false
  /-- Whether the first line of a newly loaded file stops. -/
  stopsAtLoad : Bool := false
  /-- The breakpoint table. -/
  table : OrderedMap Tracer.Spot Tracer.Planted := ∅
  mode : Tracer.Mode := .free
  /-- Whether no line was traced yet. -/
  atFirstLine : Bool := true
  currentFile : Option SourceFile := none
  /-- Whether a load stop is due at the next line. -/
  loadPending : Bool := false
  /-- How many frames are entered. -/
  depth : Nat := 0
  /-- Whether a thread is parked in a stop. -/
  suspended : Bool := false
  /-- The mode in which the parked thread shall go on. -/
  release : Option Tracer.Mode := none
  /-- Whether the script shall be aborted. -/
  quitting : Bool := false
  deriving DecidableEq

/-- What a traced line came to. -/
inductive Tracer.Verdict where
  /-- The engine goes on at once. -/
  | passed (outcome : Outcome)
  /-- The thread parks. -/
  | stopped (reason : StopReason)
  deriving DecidableEq

namespace Tracer

instance : Inhabited Tracer := ⟨{}⟩

/-! ## The breakpoint table -/

/-- The breakpoint at a line of a file. -/
def planted? (t : Tracer) (f : SourceFile) (line : UInt32) : Option Planted :=
  t.table.find? ⟨f, line⟩

/-- The lines of a file with breakpoints, in order. -/
def linesOf (t : Tracer) (f : SourceFile) : List UInt32 :=
  (t.table.keys.filter fun s => s.file = f).map Spot.line

/-- Plants a breakpoint with nothing counted yet. -/
def plant (t : Tracer) (line : UInt32) (b : Breakpoint) : Tracer :=
  { t with table := t.table.insert ⟨b.file, line⟩ ⟨b.condition, b.hitCount, b.temporary, 0⟩ }

/-- Takes all breakpoints of a file out. -/
def clearFile (t : Tracer) (f : SourceFile) : Tracer :=
  { t with table := t.table.filter fun s _ => s.file ≠ f }

/-- Counts a hit at a line, and tells whether a breakpoint there stops. Hits to be ignored use up
the ignore count, and a temporary breakpoint goes with its first stop. -/
def hit (t : Tracer) (f : SourceFile) (line : UInt32) : Tracer × Bool :=
  let spot : Spot := ⟨f, line⟩
  match t.table.find? spot with
  | none => (t, false)
  | some p =>
    let counted := { p with hits := p.hits + 1 }
    if 0 < p.ignore then
      ({ t with table := t.table.insert spot { counted with ignore := p.ignore - 1 } }, false)
    else if p.temporary then ({ t with table := t.table.erase spot }, true)
    else ({ t with table := t.table.insert spot counted }, true)

/-! ## Reports of the engine -/

/-- A frame running a file is entered. A switch to another file is a script load, which is told
with its file if someone listens. -/
def enter (t : Tracer) (f : SourceFile) : Tracer × Option SourceFile :=
  let deeper := { t with depth := t.depth + 1 }
  if t.currentFile = some f then (deeper, none)
  else
    ({ deeper with currentFile := some f, loadPending := t.stopsAtLoad },
      if t.observed then some f else none)

/-- A frame is left. -/
def leave (t : Tracer) : Tracer :=
  { t with depth := t.depth - 1 }

/-- Whether the pending step ends at the current depth. -/
def stepEnds (t : Tracer) : Bool :=
  match t.mode with
  | .free => false
  | .into => true
  | .atOrAbove depth => decide (t.depth ≤ depth)
  | .above depth => decide (t.depth < depth)

/-- Stops for a breakpoint or for the end of a step. -/
def reasonHere (t : Tracer) (f : SourceFile) (line : UInt32) : Tracer × Option StopReason :=
  let (t, stops) := t.hit f line
  if stops then (t, some .breakpoint)
  else if t.stepEnds then (t, some .stepEnd)
  else (t, none)

/-- Why the line that is about to run stops, if it does. The first line of all and the first line
after a load may stop before its breakpoints are looked at. -/
def reason (t : Tracer) (f : SourceFile) (line : UInt32) : Tracer × Option StopReason :=
  if t.atFirstLine then
    -- the first line of all is also the first after a load, but only one stop is due
    let t := { t with atFirstLine := false, loadPending := false }
    if t.stopsAtStart then (t, some .startup) else t.reasonHere f line
  else if t.loadPending then ({ t with loadPending := false }, some .scriptLoad)
  else t.reasonHere f line

/-- The place that a stack is at: file and line of its top frame. There is none for an empty stack,
before the first line, and in code without a file. -/
def top? (stack : List Frame) : Option (SourceFile × UInt32) :=
  match stack with
  | [] => none
  | frame :: _ =>
    if frame.line < 1 then none else frame.script.file?.map fun f => (f, frame.line)

/-- The engine is about to run the line at the top of a stack. -/
def line (t : Tracer) (stack : List Frame) : Tracer × Verdict :=
  match top? stack with
  | none => (t, .passed .continue_)
  | some (f, n) =>
    if t.quitting then (t, .passed .quit)
    else
      match t.reason f n with
      | (t, none) => (t, .passed .continue_)
      -- a stop ends the step that was under way
      | (t, some reason) =>
        ({ t with suspended := true, release := none, mode := .free }, .stopped reason)

/-- The parked thread goes on if it was released or the script shall be aborted. -/
def wake? (t : Tracer) : Option (Tracer × Outcome) :=
  if t.quitting then some ({ t with suspended := false }, .quit)
  else
    match t.release with
    | some mode => some ({ t with suspended := false, release := none, mode := mode }, .continue_)
    | none => none

/-! ## Commands -/

/-- Releases the parked thread, if one is parked. -/
def releaseIn (t : Tracer) (mode : Mode) : Tracer :=
  if t.suspended then { t with release := some mode } else t

/-- Performs a command. Only a breakpoint without a line is refused. -/
def invoke (t : Tracer) : Command → Tracer × Except Error Unit
  | .suspendOnStartup enabled => ({ t with stopsAtStart := enabled }, .ok ())
  | .suspendOnScriptLoad enabled => ({ t with stopsAtLoad := enabled }, .ok ())
  | .setBreak b =>
    match b.line with
    | some line => (t.plant line b, .ok ())
    | none => (t, .error (.command "set_break" ("no line for breakpoint in " ++ b.file.text)))
  | .clearFile f => (t.clearFile f, .ok ())
  | .stepInto => (t.releaseIn .into, .ok ())
  | .stepOver => (t.releaseIn (.atOrAbove t.depth), .ok ())
  | .stepOut => (t.releaseIn (.above t.depth), .ok ())
  | .continue_ => (t.releaseIn .free, .ok ())
  | .quit => ({ t with quitting := true }, .ok ())

end Tracer

end DebugRelay
