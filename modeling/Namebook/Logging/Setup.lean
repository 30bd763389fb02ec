/-
  Namebook.Logging.Setup
  ──────────────────────
  **Setting logging up, once.**

  The first set-up that succeeds fixes the level and the directory for good and yields the two
  records of the start; afterwards a set-up succeeds only if it asks for the same.  What starting
  the log does to its surroundings is a parameter, so every statement here holds for whatever way
  a start may fail.
-/
import Namebook.About
import Namebook.Config
import Namebook.Log
import Namebook.Files.Path
import Namebook.Text.Blank

namespace Namebook

open Namebook.Log

/-- The level of a name: blanks around it and the case of ASCII letters do not matter, and `warning`
is another name of `warn`. -/
def Log.Level.ofName? (name : String) : Option Level :=
  match name with
  | "trace" => some .trace
  | "debug" => some .debug
  | "info" => some .info
  | "warn" => some .warn
  | "warning" => some .warn
  | "error" => some .error
  | _ => none

namespace Logging

/-! ## §1. What is asked for. -/

/-- A text without blanks around it and with ASCII letters in lower case. -/
def lowered (s : String) : String :=
  String.ofList ((Text.trim s).toList.map Char.toLower)

/-- A directory for log files: an absolute path. -/
structure Directory where
  path : String
  deriving DecidableEq

/-- Whether two directories have the same components. -/
def Directory.same (a b : Directory) : Bool :=
  decide (Path.components a.path = Path.components b.path)

/-- Where and how much is logged. -/
structure Target where
  level : Level
  directory : Directory
  deriving DecidableEq

/-- Why starting the log fails. -/
inductive StartFault where
  /-- The directory cannot be made. -/
  | directory (cause : String)
  /-- The log cannot be opened. -/
  | logger (cause : String)
  deriving DecidableEq

/-- Why a set-up is refused. -/
inductive SetupError where
  | unsupportedLevel (level : String)
  | emptyDirectory
  | relativeDirectory (path : String)
  | undecodableDirectory (shown : String)
  | startFailed (directory : Directory) (fault : StartFault)
  /-- Logging goes to another directory already. -/
  | directoryFixed (active wanted : Directory)
  /-- Logging has another level already. -/
  | levelFixed (active wanted : Level)
  deriving DecidableEq

namespace SetupError

/-- The text of an error. -/
def message : SetupError → String
  | unsupportedLevel level =>
    "unsupported log level `" ++ level ++ "`; expected trace|debug|info|warn|error"
  | emptyDirectory => "log_dir cannot be empty"
  | relativeDirectory path => "log_dir must be an absolute path, got `" ++ path ++ "`"
  | undecodableDirectory shown => "log_dir `" ++ shown ++ "` is not valid UTF-8"
  | startFailed directory (.directory cause) =>
    "failed to create log directory `" ++ directory.path ++ "`: " ++ cause
  | startFailed _ (.logger cause) => "failed to start logger: " ++ cause
  | directoryFixed active wanted =>
    "logging already initialized at `" ++ active.path ++ "`; refusing to switch to `" ++
      wanted.path ++ "`"
  | levelFixed active wanted =>
    "logging already initialized with level `" ++ active.name ++ "`; refusing to switch to `" ++
      wanted.name ++ "`"

end SetupError

/-- The level that is asked for. -/
def normaliseLevel (level : String) : Except SetupError Level :=
  match Level.ofName? (lowered level) with
  | some l => .ok l
  | none => .error (.unsupportedLevel (lowered level))

/-- The directory that is asked for: the trimmed path, which must be absolute. -/
def normaliseDirectory (path : String) : Except SetupError Directory :=
  if Text.trim path = "" then .error .emptyDirectory
  else if Path.isAbsolute (Text.trim path) then .ok ⟨Text.trim path⟩
  else .error (.relativeDirectory (Text.trim path))

/-- The target that is asked for; a bad level is reported before a bad directory. -/
def normalise (level path : String) : Except SetupError Target := do
  let l ← normaliseLevel level
  let d ← normaliseDirectory path
  return { level := l, directory := d }

namespace Target

/-- Whether what is active is what is wanted; another directory is reported before another
level. -/
def agree (active wanted : Target) : Except SetupError Unit :=
  if !active.directory.same wanted.directory then
    .error (.directoryFixed active.directory wanted.directory)
  else if active.level ≠ wanted.level then .error (.levelFixed active.level wanted.level)
  else .ok ()

/-- The records of the start. -/
def startRecords (t : Target) : List Record :=
  [{ level := .info
     event := "app_start"
     source := "core"
     status := .ok
     fields :=
       [("platform", About.platform), ("build_mode", About.buildMode),
        ("version", About.version)] },
   { level := .info
     event := "core_init"
     source := "core"
     status := .ok
     fields := [("level", t.level.name), ("log_dir", t.directory.path)] }]

/-- The records that the level lets through. -/
def passing (t : Target) (records : List Record) : List Record :=
  records.filter fun r => t.level.passes r.level

end Target

/-! ## §2. The set-up. -/

/-- What starting the log for a target does to the surroundings. -/
abbrev Start (σ : Type) := Target → σ → Except StartFault Unit × σ

/-- What a set-up answers and leaves. -/
structure Outcome (σ α : Type) where
  value : Except SetupError α
  /-- The target of logging from now on. -/
  active : Option Target
  surroundings : σ
  /-- The records that are reported; those that pass the level are written. -/
  log : List Record

/-- Changes what a set-up answers. -/
def Outcome.map {σ α β : Type} (f : α → β) (o : Outcome σ α) : Outcome σ β :=
  { o with value := o.value.map f }

/-- A set-up that answers without doing anything. -/
def Outcome.unchanged {σ α : Type} (active : Option Target) (s : σ)
    (value : Except SetupError α) : Outcome σ α :=
  { value, active, surroundings := s, log := [] }

/-- **Sets logging up** for a level and a directory. -/
def init {σ : Type} (start : Start σ) (active : Option Target) (s : σ) (level path : String) :
    Outcome σ Unit :=
  match normalise level path, active with
  | .error e, _ => .unchanged active s (.error e)
  -- logging is never moved or restarted
  | .ok wanted, some a => .unchanged active s (a.agree wanted)
  | .ok wanted, none =>
    match start wanted s with
    | (.error fault, s') => .unchanged none s' (.error (.startFailed wanted.directory fault))
    | (.ok (), s') =>
      -- what is active now is compared once more with what is wanted
      { value := wanted.agree wanted, active := some wanted, surroundings := s'
        log := wanted.startRecords }

/-- Sets logging up as configured; the answer is whether there is a directory to log to. -/
def initConfigured {σ : Type} (start : Start σ) (active : Option Target) (s : σ) (level : String) :
    Option RawPath → Outcome σ Bool
  | none => .unchanged active s (.ok false)
  | some (.undecodable shown) => .unchanged active s (.error (.undecodableDirectory shown))
  | some (.text path) => (init start active s level path).map fun _ => true

end Logging

/-- The directory of the log files as a path. -/
def CoreConfig.logPath? (c : CoreConfig) : Option RawPath :=
  c.logDir.map .text

end Namebook
