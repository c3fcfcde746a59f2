/-
Which build of the service is running.
-/

namespace ShowControl

/-- The version of the service. -/
def version : String := "0.1.0"

/-- What a build was made from, when and how. -/
structure BuildStamp where
  revision : String
  timestamp : String
  profile : String

end ShowControl
