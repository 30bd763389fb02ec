/-
  Namebook.Config
  ───────────────
  **Runtime configuration.**

  Four settings are read from the environment.  Each depends on its own variable only, and on that
  only through the trimmed value: a missing variable and a blank one both leave the default.
-/
import Namebook.NameList

namespace Namebook

/-- The level of logging where none is configured.  This is the level of a debug build, which is the
build described here; a release build has `info`. -/
def defaultLogLevel : String := "debug"

/-- The names that are reserved where none are configured. -/
def defaultForbiddenNames : List String :=
  ["api", "auth", "login", "logout", "new", "profile", "public", "register", "settings"]

/-- Runtime configuration. -/
structure CoreConfig where
  /-- The file that holds the store. -/
  dbPath : Option String
  logLevel : String
  /-- The directory of the log files; without one nothing is logged to files. -/
  logDir : Option String
  /-- Names that may never be used as aliases. -/
  forbiddenNames : List String
  deriving DecidableEq

namespace CoreConfig

/-- The configuration of an empty environment. -/
def default : CoreConfig :=
  { dbPath := none
    logLevel := defaultLogLevel
    logDir := none
    forbiddenNames := defaultForbiddenNames }

/-- The variables of the four settings. -/
def dbPathKey : String := "NOTEALIAS_DB_PATH"
@[inherit_doc dbPathKey] def logLevelKey : String := "NOTEALIAS_LOG_LEVEL"
@[inherit_doc dbPathKey] def logDirKey : String := "NOTEALIAS_LOG_DIR"
@[inherit_doc dbPathKey] def forbiddenNamesKey : String := "NOTEALIAS_FORBIDDEN_NAMES"

/-- A variable counts only if its trimmed value is not empty. -/
def setting? (lookup : String → Option String) (key : String) : Option String :=
  ((lookup key).map Text.trim).filter (· ≠ "")

/-- The configuration that an environment describes. -/
def ofLookup (lookup : String → Option String) : CoreConfig :=
  { dbPath := setting? lookup dbPathKey
    logLevel := (setting? lookup logLevelKey).getD defaultLogLevel
    logDir := setting? lookup logDirKey
    forbiddenNames :=
      ((setting? lookup forbiddenNamesKey).map NameList.parse).getD defaultForbiddenNames }

/-- The names that aliases may not have. -/
def reservedNames (c : CoreConfig) : ReservedNames :=
  ReservedNames.ofList c.forbiddenNames

end CoreConfig

end Namebook
