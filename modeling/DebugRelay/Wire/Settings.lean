import DebugRelay.Json.Record
import DebugRelay.Settings

/-!
# Settings in JSON

The settings are records in which every field has its default. They are read from a JSON text and
from any other text whose values have a form in JSON; `overlong` tells whether an array may have
more items than the record it stands for has fields.
-/

namespace DebugRelay

open Json

/-- The debugger's settings as JSON. -/
def DebuggerSettings.toJson (s : DebuggerSettings) : Json :=
  .obj [
    ("target_name", .str s.targetName),
    ("breakpoint_model_id", .str s.breakpointModel),
    ("suspend_on_startup", .bool s.suspendOnStartup),
    ("suspend_on_script_load", .bool s.suspendOnScriptLoad),
    ("show_dynamic_code", .bool s.showDynamicCode),
    ("support_dir", .str s.supportDir),
    ("setup_script", .str s.setupScript)]

/-- Reads the debugger's settings. -/
def DebuggerSettings.ofJson? (env : Environment) (overlong : Bool) :
    Decoder DebuggerSettings := fun j => do
  let d := DebuggerSettings.default env
  let r ← recordOf? overlong
    ["target_name", "breakpoint_model_id", "suspend_on_startup", "suspend_on_script_load",
      "show_dynamic_code", "support_dir", "setup_script"] j
  some {
    targetName := ← r.defaulted "target_name" d.targetName text?
    breakpointModel := ← r.defaulted "breakpoint_model_id" d.breakpointModel text?
    suspendOnStartup := ← r.defaulted "suspend_on_startup" d.suspendOnStartup bool?
    suspendOnScriptLoad := ← r.defaulted "suspend_on_script_load" d.suspendOnScriptLoad bool?
    showDynamicCode := ← r.defaulted "show_dynamic_code" d.showDynamicCode bool?
    supportDir := ← r.defaulted "support_dir" d.supportDir text?
    setupScript := ← r.defaulted "setup_script" d.setupScript text? }

/-- The dispatch settings as JSON. -/
def DispatchSettings.toJson (s : DispatchSettings) : Json :=
  .obj [("thread_name", .str s.threadName)]

/-- Reads the dispatch settings. -/
def DispatchSettings.ofJson? (overlong : Bool) : Decoder DispatchSettings := fun j => do
  let r ← recordOf? overlong ["thread_name"] j
  some { threadName := ← r.defaulted "thread_name" DispatchSettings.default.threadName text? }

/-- The logging settings as JSON. -/
def LoggingSettings.toJson (s : LoggingSettings) : Json :=
  .obj [("level", .str s.level), ("format", .str s.format)]

/-- Reads the logging settings. -/
def LoggingSettings.ofJson? (overlong : Bool) : Decoder LoggingSettings := fun j => do
  let r ← recordOf? overlong ["level", "format"] j
  some {
    level := ← r.defaulted "level" LoggingSettings.default.level text?
    format := ← r.defaulted "format" LoggingSettings.default.format text? }

/-- The settings as JSON. -/
def Settings.toJson (s : Settings) : Json :=
  .obj [
    ("version", .str s.version),
    ("debugger", s.debugger.toJson),
    ("dispatch", s.dispatch.toJson),
    ("logging", s.logging.toJson)]

/-- Reads settings. -/
def Settings.ofJson? (env : Environment) (overlong : Bool) : Decoder Settings := fun j => do
  let d := Settings.default env
  let r ← recordOf? overlong ["version", "debugger", "dispatch", "logging"] j
  some {
    version := ← r.defaulted "version" d.version text?
    debugger := ← r.defaulted "debugger" d.debugger (DebuggerSettings.ofJson? env overlong)
    dispatch := ← r.defaulted "dispatch" d.dispatch (DispatchSettings.ofJson? overlong)
    logging := ← r.defaulted "logging" d.logging (LoggingSettings.ofJson? overlong) }

end DebugRelay
