/-!
# Version

The version under which the program reports itself.
-/

namespace Shortlink

/-- The version of the program. -/
def version : String := "1.0.0"

end Shortlink
