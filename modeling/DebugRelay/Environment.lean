import DebugRelay.Path

/-!
# Environment variables

The variables of a process, and the user directories that they name.
-/

namespace DebugRelay

/-- The environment variables of a process. -/
structure Environment where
  values : List (String × String)
  deriving DecidableEq

namespace Environment

/-- The value of a variable, if it is set. -/
def get? (env : Environment) (name : String) : Option String :=
  env.values.lookup name

/-- The home directory, if one is named. -/
def homeDir? (env : Environment) : Option String :=
  (env.get? "HOME").filter (· ≠ "")

/-- A user directory: what the variable names, if that is absolute, else a path under the home
directory. -/
def userDir? (env : Environment) (name underHome : String) : Option String :=
  match (env.get? name).filter Path.isAbsolute with
  | some dir => some dir
  | none => env.homeDir?.map fun home => Path.join home underHome

/-- The directory of a user's data. -/
def dataDir? (env : Environment) : Option String := env.userDir? "XDG_DATA_HOME" ".local/share"

/-- The directory of a user's configuration. -/
def configDir? (env : Environment) : Option String := env.userDir? "XDG_CONFIG_HOME" ".config"

end Environment

end DebugRelay
