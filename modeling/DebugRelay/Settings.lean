import DebugRelay.Environment

/-!
# Settings

What can be configured: how the debugger is installed, on which thread events are dispatched, and
what is logged. Every setting has a default; the directory of the support code depends on the
environment.
-/

namespace DebugRelay

/-- How the debugger is installed and when it suspends. -/
structure DebuggerSettings where
  /-- What the IDE calls the run. -/
  targetName : String
  /-- The kind of breakpoints that are accepted. -/
  breakpointModel : String
  /-- Whether the first line stops. -/
  suspendOnStartup : Bool
  /-- Whether the first line of a newly loaded file stops. -/
  suspendOnScriptLoad : Bool
  /-- Whether scripts without a file are shown. -/
  showDynamicCode : Bool
  /-- The directory of the support code in the interpreter. -/
  supportDir : String
  /-- The script in that directory that installs the debugger. -/
  setupScript : String
  deriving DecidableEq

/-- How events are dispatched. -/
structure DispatchSettings where
  /-- The name of the dispatch thread. -/
  threadName : String
  deriving DecidableEq

/-- What is logged. -/
structure LoggingSettings where
  level : String
  format : String
  deriving DecidableEq

/-- All settings. -/
structure Settings where
  /-- The version of the settings' layout. -/
  version : String
  debugger : DebuggerSettings
  dispatch : DispatchSettings
  logging : LoggingSettings
  deriving DecidableEq

/-- The directory of the support code when none is configured. -/
def defaultSupportDir (env : Environment) : String :=
  match env.dataDir? with
  | some dir => Path.join (Path.join dir "debridge") "support"
  | none => ".debridge/support"

/-- The debugger's settings when none are configured. -/
def DebuggerSettings.default (env : Environment) : DebuggerSettings where
  targetName := "Script Debugger"
  breakpointModel := "debridge.python"
  suspendOnStartup := false
  suspendOnScriptLoad := false
  showDynamicCode := false
  supportDir := defaultSupportDir env
  setupScript := "setup_debugger.py"

/-- The dispatch settings when none are configured. -/
def DispatchSettings.default : DispatchSettings where
  threadName := "debridge-dispatch"

/-- The logging settings when none are configured. -/
def LoggingSettings.default : LoggingSettings where
  level := "info"
  format := "text"

/-- The settings when none are configured. -/
def Settings.default (env : Environment) : Settings where
  version := "1.0.0"
  debugger := .default env
  dispatch := .default
  logging := .default

end DebugRelay
