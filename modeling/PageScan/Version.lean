/-!
# The program's name and version
-/

namespace PageScan

/-- The name under which the program is called. -/
def programName : String := "inflight"

/-- The version of the program. -/
def version : String := "0.1.0"

end PageScan
