/-
  Namebook.About
  ──────────────
  **What a running program says of itself.**

  Platform and build are fixed when a program is built.  The program described here is a debug build
  for one platform: a release build has another default level and says so of itself, and a build for
  another platform has its name, and paths of its form.
-/

namespace Namebook.About

/-- The version of the program. -/
def version : String := "0.1.0"

/-- The platform that the program was built for. -/
def platform : String := "linux"

/-- How the program was built.  A release build says `release`. -/
def buildMode : String := "debug"

/-- The answer to a health check. -/
def ping : String := "pong"

end Namebook.About
