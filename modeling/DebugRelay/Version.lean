/-!
# Version
-/

namespace DebugRelay

/-- The version of the library. -/
def version : String := "0.1.0"

end DebugRelay
