import DebugRelay.Error
import DebugRelay.FileTree
import DebugRelay.Text.Quoted
import DebugRelay.Toml.Printer
import DebugRelay.Toml.Reader
import DebugRelay.Wire.Settings

/-!
# Settings files

Settings are kept in a TOML file. `SettingsFile.load` reads one, with a default for each setting
that it leaves out and for a file that does not exist; `SettingsFile.save` writes all settings.
-/

namespace DebugRelay

/-- What loading and saving work on: the files, the working directory and the environment. -/
structure Machine where
  files : FileTree
  cwd : Place
  env : Environment

/-- Settings and the path of the file that they belong to. -/
structure SettingsFile where
  settings : Settings
  path : String
  deriving DecidableEq

/-! ## The text of settings -/

/-- The debugger's settings as a section. -/
def DebuggerSettings.toSection (s : DebuggerSettings) : Toml.Section := [
  ("target_name", .string s.targetName),
  ("breakpoint_model_id", .string s.breakpointModel),
  ("suspend_on_startup", .boolean s.suspendOnStartup),
  ("suspend_on_script_load", .boolean s.suspendOnScriptLoad),
  ("show_dynamic_code", .boolean s.showDynamicCode),
  ("support_dir", .string s.supportDir),
  ("setup_script", .string s.setupScript)]

/-- The dispatch settings as a section. -/
def DispatchSettings.toSection (s : DispatchSettings) : Toml.Section :=
  [("thread_name", .string s.threadName)]

/-- The logging settings as a section. -/
def LoggingSettings.toSection (s : LoggingSettings) : Toml.Section :=
  [("level", .string s.level), ("format", .string s.format)]

/-- The settings above the tables. -/
def Settings.top (s : Settings) : Toml.Section := [("version", .string s.version)]

/-- The tables of a settings file. -/
def Settings.tables (s : Settings) : List (String × Toml.Section) := [
  ("debugger", s.debugger.toSection),
  ("dispatch", s.dispatch.toSection),
  ("logging", s.logging.toSection)]

/-- The text of a settings file, if it can be written. -/
def Settings.text? (s : Settings) : Option String := Toml.documentText? s.top s.tables

/-- Reads the text of a settings file. -/
def Settings.ofText? (env : Environment) (text : String) : Option Settings :=
  (Toml.parse? text).bind fun document => Settings.ofJson? env true document.toJson

namespace FileTree.Failure

/-- The wording of a failure. -/
def message : Failure → String
  | notFound => "no such file or directory"
  | notDirectory => "not a directory"
  | isDirectory => "is a directory"
  | occupied => "file exists"
  | tooManyLinks => "too many levels of symbolic links"
  | tooLong => "file name too long"
  | invalid => "path contains a NUL character"

/-- The failure as an error. -/
def toError (f : Failure) : Error := .io f.message

end FileTree.Failure

/-- How saving ends. -/
inductive SettingsFile.Saved where
  | saved
  | failed (e : Error)
  /-- A setting has more quotes in a row than can be counted, which panics. -/
  | panicked
  deriving DecidableEq

namespace SettingsFile

/-! ## Loading and saving -/

/-- The path of the settings when none is given: in the user's configuration directory if that has
a file for them, else in the working directory. -/
def defaultPath (m : Machine) : String :=
  match m.env.configDir? with
  | some dir =>
    let path := Path.join dir "debridge/config.toml"
    if m.files.exists? m.cwd path then path else ".debridge/config.toml"
  | none => ".debridge/config.toml"

/-- Reads the file at a path. -/
def read (m : Machine) (path : String) : Except Error SettingsFile :=
  match m.files.read m.cwd path with
  | .error f => .error f.toError
  | .ok content =>
    match String.fromUTF8? content with
    | none => .error (.io "the file is not valid UTF-8")
    | some text =>
      match Settings.ofText? m.env text with
      | some settings => .ok ⟨settings, path⟩
      | none => .error (.settings (path ++ ": not the text of settings"))

/-- Loads the settings at a path, or at the default path. Where nothing is there, the defaults are
taken, which is worth a warning. -/
def load (m : Machine) (path : Option String) : List String × Except Error SettingsFile :=
  let path := path.getD (defaultPath m)
  if m.files.exists? m.cwd path then ([], read m path)
  else
    (["No config at " ++ Text.quoted path ++ ", using defaults"], .ok ⟨.default m.env, path⟩)

/-- Makes the directories above the settings' file and writes the settings to it. The directories
stay also if the file is not written. -/
def save (m : Machine) (f : SettingsFile) : Machine × Saved :=
  match m.files.makeParents m.cwd f.path with
  | .error e => (m, .failed e.toError)
  | .ok files =>
    let m := { m with files := files }
    match f.settings.text? with
    | none => (m, .panicked)
    | some text =>
      match m.files.write m.cwd f.path text.toUTF8 with
      | .error e => (m, .failed e.toError)
      | .ok files => ({ m with files := files }, .saved)

end SettingsFile

end DebugRelay
