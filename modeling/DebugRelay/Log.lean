/-!
# Log entries

What the library reports besides its results. An entry remembers on whose behalf it was written.
-/

namespace DebugRelay

/-- How grave a log entry is. -/
inductive Severity where
  | warning
  | error
  deriving DecidableEq

/-- On whose behalf something is done. -/
inductive Actor where
  /-- The code that calls the library. -/
  | caller
  /-- The thread that runs the script. -/
  | engine
  /-- The loop that dispatches events. -/
  | dispatcher
  deriving DecidableEq

/-- One line of the log. -/
structure LogEntry where
  actor : Actor
  severity : Severity
  text : String
  deriving DecidableEq

/-- The label of a severity. -/
def Severity.label : Severity → String
  | .warning => "WARN"
  | .error => "ERROR"

/-- A log line as it is shown. -/
def LogEntry.show (e : LogEntry) : String := e.severity.label ++ " " ++ e.text

/-- The log in reading order: the caller's entries, the engine's, the dispatcher's. -/
def readingOrder (log : List LogEntry) : List LogEntry :=
  [Actor.caller, .engine, .dispatcher].flatMap fun a => log.filter (·.actor = a)

end DebugRelay
