import DebugRelay.Settings
import DebugRelay.Text.Lower

/-!
# The logger

A process has one logger. The first installation counts: it fixes the level up to which entries are
written and their layout.
-/

namespace DebugRelay

/-- Up to which level entries are written. -/
inductive LogLevel where
  | off
  | error
  | warn
  | info
  | debug
  | trace
  deriving DecidableEq

namespace LogLevel

/-- The levels, fewest entries first. -/
def all : List LogLevel := [off, error, warn, info, debug, trace]

/-- The name of a level. -/
def name : LogLevel → String
  | off => "off"
  | error => "error"
  | warn => "warn"
  | info => "info"
  | debug => "debug"
  | trace => "trace"

/-- The level that a text names in any case; an empty or unknown one leaves errors only. -/
def ofName (s : String) : LogLevel :=
  (all.find? fun l => l.name = Text.lower s).getD error

end LogLevel

/-- How an entry is laid out. -/
inductive LogLayout where
  | text
  | compact
  | pretty
  deriving DecidableEq

/-- The layout of a name; every unknown one is plain text. -/
def LogLayout.ofName : String → LogLayout
  | "compact" => compact
  | "pretty" => pretty
  | _ => text

/-- The logger of a process: what it is set to, once it is installed. -/
structure Logger where
  installed : Option (LogLevel × LogLayout) := none
  deriving DecidableEq

namespace Logger

instance : Inhabited Logger := ⟨{}⟩

/-- The level up to which the logger writes; nothing before it is installed. -/
def level (l : Logger) : LogLevel :=
  match l.installed with
  | some (level, _) => level
  | none => .off

/-- Installs the logger unless it is, and tells whether it did. A level from outside takes
precedence over the one of the settings. -/
def install (l : Logger) (outer : Option String) (s : LoggingSettings) : Logger × Bool :=
  match l.installed with
  | some _ => (l, false)
  | none => (⟨some (.ofName (outer.getD s.level), .ofName s.format)⟩, true)

end Logger

end DebugRelay
