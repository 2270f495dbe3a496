/-!
# The name and the version under which the program is released
-/

namespace PortSurvey.Release

/-- The name of the program. -/
def name : String := "iacscope"

/-- The version of the program. -/
def version : String := "0.1.0"

end PortSurvey.Release
