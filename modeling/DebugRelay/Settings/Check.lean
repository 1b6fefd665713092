import DebugRelay.Error
import DebugRelay.Settings
import DebugRelay.Text.Blank
import DebugRelay.Text.Lower
import DebugRelay.Text.Quoted

/-!
# Accepting and overriding settings

`Settings.check` tells whether settings make sense, and `Settings.overridden` applies the
environment variables that take precedence over them.
-/

namespace DebugRelay

/-! ## Acceptance -/

/-- The log levels that settings may name, in any case. -/
def LoggingSettings.levels : List String := ["trace", "debug", "info", "warn", "error"]

/-- The log formats that settings may name. -/
def LoggingSettings.formats : List String := ["text", "compact", "pretty"]

/-- Fails unless a condition holds. -/
def ensure (holds : Bool) (reason : String) : Except Error Unit :=
  if holds then .ok () else .error (.settings reason)

/-- Whether the debugger could be installed as the settings say. -/
def DebuggerSettings.check (s : DebuggerSettings) : Except Error Unit := do
  ensure (!Text.isAllBlank s.breakpointModel) "Breakpoint model id must not be empty"
  ensure (!Text.isAllBlank s.setupScript) "Setup script must not be empty"

/-- Whether a dispatch thread could be started as the settings say. -/
def DispatchSettings.check (s : DispatchSettings) : Except Error Unit :=
  ensure (!Text.isAllBlank s.threadName) "Dispatch thread name must not be empty"

/-- Whether level and format of the log are known. -/
def LoggingSettings.check (s : LoggingSettings) : Except Error Unit := do
  ensure (levels.contains (Text.lower s.level)) ("Unknown log level: " ++ s.level)
  ensure (formats.contains s.format) ("Unknown log format: " ++ s.format)

/-- What is worth a warning in the debugger's settings: a directory that is not absolute. -/
def DebuggerSettings.warnings (s : DebuggerSettings) : List String :=
  if Path.isAbsolute s.supportDir then []
  else ["Support directory " ++ Text.quoted s.supportDir ++
    " is relative, resolving against the working directory"]

/-- Checks settings from the top down. The warnings are about the debugger's settings and come once
those are accepted. -/
def Settings.check (s : Settings) : List String × Except Error Unit :=
  match s.debugger.check with
  | .error e => ([], .error e)
  | .ok () => (s.debugger.warnings, do
    s.dispatch.check
    s.logging.check)

/-! ## Overriding -/

/-- The truth value that a text names, blanks and case aside. -/
def flag? (value : String) : Option Bool :=
  let word := Text.lower (Text.trimBlanks value)
  if ["1", "true", "yes", "on"].contains word then some true
  else if ["0", "false", "no", "off"].contains word then some false
  else none

/-- The truth value that a variable has to name. -/
def readFlag (name value : String) : Except Error Bool :=
  match flag? value with
  | some b => .ok b
  | none => .error (.settings (name ++ " must be a boolean, got " ++
      Text.quoted (Text.lower (Text.trimBlanks value))))

/-- An override of the settings by the value of a variable. -/
structure Override where
  /-- The variable. -/
  name : String
  /-- The settings with the value taken over. -/
  apply : String → Settings → Except Error Settings

/-- The overrides in the order in which they are applied. -/
def Override.all : List Override := [
  ⟨"DEBRIDGE_SUSPEND_ON_STARTUP", fun value s => do
    let b ← readFlag "DEBRIDGE_SUSPEND_ON_STARTUP" value
    .ok { s with debugger := { s.debugger with suspendOnStartup := b } }⟩,
  ⟨"DEBRIDGE_SUSPEND_ON_SCRIPT_LOAD", fun value s => do
    let b ← readFlag "DEBRIDGE_SUSPEND_ON_SCRIPT_LOAD" value
    .ok { s with debugger := { s.debugger with suspendOnScriptLoad := b } }⟩,
  ⟨"DEBRIDGE_LOG_LEVEL", fun value s =>
    .ok { s with logging := { s.logging with level := value } }⟩,
  ⟨"DEBRIDGE_SUPPORT_DIR", fun value s =>
    .ok { s with debugger := { s.debugger with supportDir := value } }⟩]

/-- Applies overrides whose variables are set, up to the first that fails. -/
def Settings.override (env : Environment) (s : Settings) :
    List Override → Settings × Except Error Unit
  | [] => (s, .ok ())
  | o :: rest =>
    match env.get? o.name with
    | none => s.override env rest
    | some value =>
      match o.apply value s with
      | .ok s => s.override env rest
      | .error e => (s, .error e)

/-- The settings with everything that the environment overrides. Overrides in front of one that
fails stay. -/
def Settings.overridden (env : Environment) (s : Settings) : Settings × Except Error Unit :=
  s.override env Override.all

end DebugRelay
