/-
  Namebook.Logging.Session
  ────────────────────────
  **A program run that logs to files.**

  The set-up over a tree of files: starting makes the directory, and the records that pass the level
  go to the current log file of the directory.
-/
import Namebook.Files.Tree
import Namebook.Logging.Setup

namespace Namebook.Logging

/-- The name of the file that is being written.  That a file which has grown large is put away under a
number, and the oldest ones are deleted, is left out. -/
def currentLog : String := "notealias_rCURRENT.log"

/-- What logging has to do with in one run of a program. -/
structure Session where
  active : Option Target
  files : FileTree

namespace Session

/-- A run that has not set logging up yet. -/
def fresh (files : FileTree) : Session := { active := none, files }

/-- Starting the log makes its directory. -/
def start : Start FileTree := fun target files =>
  match files.makeDirectory target.directory.path with
  | (.ok (), files') => (.ok (), files')
  | (.error e, files') => (.error (.directory e.message), files')

/-- Writes records that the level lets through. -/
def write (p : Session) (records : List Log.Record) : Session :=
  match p.active with
  | none => p
  | some t =>
    let lines := (t.passing records).map (·.line)
    { p with files := p.files.appendLines t.directory.path currentLog lines }

/-- The answer of a set-up and the session after it. -/
def settle {α : Type} (o : Outcome FileTree α) : Except SetupError α × Session :=
  (o.value, write { active := o.active, files := o.surroundings } o.log)

/-- Sets logging up for a level and a directory. -/
def init (p : Session) (level path : String) : Except SetupError Unit × Session :=
  settle (Logging.init start p.active p.files level path)

/-- Sets logging up as configured. -/
def initConfigured (p : Session) (level : String) (path : Option RawPath) :
    Except SetupError Bool × Session :=
  settle (Logging.initConfigured start p.active p.files level path)

/-- The records in the current log file of a directory. -/
def lines? (p : Session) (directory : String) : Option (List String) :=
  p.files.lines? directory currentLog

end Session

end Namebook.Logging
