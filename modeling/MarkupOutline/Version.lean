/-!
# Version

The version of the library, as programs that use it can report it.
-/

namespace MarkupOutline

/-- The version of the library. -/
def version : String := "0.1.0"

end MarkupOutline
