/-
  Namebook.CommandLine.Run
  ────────────────────────
  **Running a command.**

  A run reads its arguments, then the configuration, then sets logging up, and only then does what
  the command says; the first failure ends it with a diagnostic.  What it needs from the system is
  given as a host, so a run is the same program over any host.
-/
import Namebook.CommandLine.Arguments
import Namebook.CommandLine.Diagnostic
import Namebook.Json.Printer
import Namebook.Logging.Setup
import Namebook.Repository.Answer
import Namebook.Service.DocumentService
import Namebook.Wire

namespace Namebook.CommandLine

/-! ## §1. Hosts and outcomes. -/

/-- What a run needs from the system. -/
structure Host (m : Type → Type) where
  /-- The variables of the environment. -/
  lookup : String → Option String
  /-- Sets logging up as configured. -/
  setUpLogging : String → Option RawPath → m (Except Logging.SetupError Bool)
  /-- Writes log records. -/
  write : List Log.Record → m Unit
  /-- Draws a block of entropy. -/
  entropy : m Block
  /-- Opens the store at a path. -/
  openStore : String → m (Except StoreError Database)

/-- How a run ends. -/
structure Finish where
  exitCode : Nat
  output : String
  errors : String
  deriving DecidableEq

namespace Finish

/-- A run that prints a text. -/
def printed (text : String) : Finish := { exitCode := 0, output := text, errors := "" }

/-- A run that fails with a diagnostic. -/
def failed (diagnostic : String) : Finish :=
  { exitCode := 1, output := "", errors := "Error: " ++ diagnostic ++ "\n" }

/-- A run whose arguments make no sense. -/
def misused : Finish := { exitCode := 2, output := "", errors := usage }

end Finish

/-! ## §2. Commands. -/

/-- What the probe prints. -/
def probeText : String :=
  "notealias_core ping=" ++ About.ping ++ "\n" ++
    "notealias_core version=" ++ About.version ++ "\n"

/-- The record of a document that was resolved. -/
def resolvedRecord (d : Document) : Log.Record :=
  { level := .info
    event := "cli_resolve"
    source := "cli"
    status := .ok
    fields := [("public_id", d.publicId)] }

/-- The connection of a run. -/
def ownConnection : Connection := 0

/-- Answers requests from an opened store.  Resolving creates nothing, so the id and the time of a
creation are never used. -/
def answerFrom (r : Request) (db : Database) : r.Answer × Database :=
  db.answer ownConnection ⟨⟨0⟩, 0⟩ r

/-- Resolves a name in an opened store; a failure is given as its diagnostic. -/
def resolveIn (db : Database) (name : String) : Except String Document × List Log.Record :=
  match db.ready ownConnection with
  | .error e => (.error e.diagnostic, [])
  | .ok () =>
    let o := (DocumentService.resolve name).run.run answerFrom (fun _ => Vector.replicate 16 0) db 0
    match o.value with
    | .ok d => (.ok d, o.log ++ [resolvedRecord d])
    | .error e => (.error e.diagnostic, o.log)

/-- Runs a command under a configuration. -/
def runCommand {m : Type → Type} [Monad m] (host : Host m) (config : CoreConfig) :
    Command → m Finish
  | .probe => return .printed probeText
  | .newId => do return .printed (PublicId.encode (← host.entropy) ++ "\n")
  | .resolve name => do
    match config.dbPath with
    | none => return .failed (Text.quoted (CoreConfig.dbPathKey ++ " is not set"))
    | some path =>
      match ← host.openStore path with
      | .error e => return .failed e.diagnostic
      | .ok db =>
        let (answer, log) := resolveIn db name
        host.write log
        match answer with
        | .ok d => return .printed (d.toJson.pretty ++ "\n")
        | .error diagnostic => return .failed diagnostic

/-- **Runs a command line.** -/
def run {m : Type → Type} [Monad m] (host : Host m) (arguments : List String) : m Finish := do
  match Invocation.ofArguments arguments with
  | .help topic => return .printed topic.text
  | .version => return .printed ("notealias " ++ About.version ++ "\n")
  | .misuse => return .misused
  | .run command =>
    let config := CoreConfig.ofLookup host.lookup
    match ← host.setUpLogging config.logLevel config.logPath? with
    | .error e => return .failed (Text.quoted e.message)
    | .ok _ => runCommand host config command

end Namebook.CommandLine
