/-
  Namebook.Main
  ─────────────
  **The program.**

  The host of a run is the system itself: its environment, its files and its entropy.  A store is
  kept in a file as a snapshot.
-/
import Namebook.CommandLine.Run
import Namebook.Json.Reader
import Namebook.Logging.Session
import Namebook.Schema.Opening
import Namebook.Store.Snapshot

namespace Namebook.CommandLine

/-- Runs an action, with its failure as a text. -/
def attempt {α : Type} (action : IO α) : IO (Except String α) := do
  try
    return .ok (← action)
  catch e =>
    return .error (toString e)

/-- The file that a target logs to. -/
def logFile (t : Logging.Target) : String := t.directory.path ++ "/" ++ Logging.currentLog

/-- Appends the records that the level lets through to the log. -/
def appendRecords (active : Option Logging.Target) (records : List Log.Record) : IO Unit := do
  if let some t := active then
    let lines := (t.passing records).map (·.line)
    unless lines.isEmpty do
      IO.FS.withFile (logFile t) .append fun h =>
        h.putStr (String.join (lines.map (· ++ "\n")))

/-- Sets logging up in the files of the system. -/
def setUpLogging (active : IO.Ref (Option Logging.Target)) (level : String)
    (path : Option RawPath) : IO (Except Logging.SetupError Bool) := do
  let made : Except String Unit ←
    match path with
    | some (.text p) =>
      match Logging.normalise level p with
      | .ok t => attempt (IO.FS.createDirAll t.directory.path)
      | .error _ => pure (.ok ())
    | _ => pure (.ok ())
  let start : Logging.Start Unit := fun _ s => (made.mapError .directory, s)
  let o := Logging.initConfigured start (← active.get) () level path
  active.set o.active
  appendRecords o.active o.log
  return o.value

/-- How long an action took, in milliseconds. -/
def timed {α : Type} (action : IO α) : IO (α × String) := do
  let before ← IO.monoMsNow
  let a ← action
  let after ← IO.monoMsNow
  return (a, toString (after - before))

/-- The tables of a snapshot as it stands in a file. -/
def readTables (contents : ByteArray) : Except StoreError Tables :=
  match String.fromUTF8? contents >>= Json.read? with
  | some j => Snapshot.tables? j
  | none => .error (.engine .notAStore)

/-- Writes a new store to a file. -/
def writeNewStore (path : String) : IO (Except StoreError Database × Bool) := do
  match ← attempt (IO.FS.writeFile path (Snapshot.ofTables Tables.empty).compact) with
  | .ok () => return (.ok Database.empty, true)
  | .error _ => return (.error (.engine (.cannotOpen path)), false)

/-- Opens the store in a file; the file is made if it is missing, and an empty one holds a new
store.  The second part of the answer tells whether the store is new. -/
def openStore (path : String) : IO (Except StoreError Database × Bool) := do
  match ← (IO.FS.readBinFile path).toBaseIO with
  | .ok contents =>
    if contents.isEmpty then writeNewStore path
    else return ((readTables contents).map fun t => { Database.empty with committed := t }, false)
  | .error (.noFileOrDirectory _ _ _) => writeNewStore path
  | .error _ => return (.error (.engine (.cannotOpen path)), false)

/-- Opens the store in a file and writes the records of the opening. -/
def openLogged (active : IO.Ref (Option Logging.Target)) (path : String) :
    IO (Except StoreError Database) := do
  let ((opened, isNew), duration) ← timed (openStore path)
  let log :=
    match opened with
    | .ok _ =>
      Schema.openStarted .file ::
        (if isNew then [Schema.migrationRecord 0] else []) ++
        [Schema.openFinished .file duration]
    | .error (.engine (.cannotOpen p)) =>
      (Schema.openRefused .file duration (.cannotOpen p)).2
    | .error e =>
      [Schema.openStarted .file, Schema.openFailed .file duration "db_bootstrap_failed" e.message]
  appendRecords (← active.get) log
  return opened

/-- The variables that the configuration reads. -/
def variableNames : List String :=
  [CoreConfig.dbPathKey, CoreConfig.logLevelKey, CoreConfig.logDirKey, CoreConfig.forbiddenNamesKey]

/-- The system as a host. -/
def systemHost : IO (Host IO) := do
  let environment ← variableNames.mapM fun key => do return (key, ← IO.getEnv key)
  let active ← IO.mkRef none
  return { lookup := fun key => (environment.lookup key).join
           setUpLogging := setUpLogging active
           write := fun records => do appendRecords (← active.get) records
           entropy := do
             let bytes ← IO.getRandomBytes 16
             return Vector.ofFn fun i => bytes.data.getD i.val 0
           openStore := openLogged active }

end Namebook.CommandLine

/-- Runs the program and ends with its exit code. -/
def main (arguments : List String) : IO UInt32 := do
  let finish ← Namebook.CommandLine.run (← Namebook.CommandLine.systemHost) arguments
  IO.print finish.output
  IO.eprint finish.errors
  return finish.exitCode.toUInt32
