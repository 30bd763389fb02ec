/-
  Namebook.Schema.Opening
  ───────────────────────
  **Opening a store.**

  Opening brings the store to the latest schema and reports its start and its end.
-/
import Namebook.Schema.Migration

namespace Namebook.Schema

/-- Where a store is kept. -/
inductive StoreMode where
  | file
  | memory
  deriving DecidableEq

/-- The name of a mode. -/
def StoreMode.name : StoreMode → String
  | file => "file"
  | memory => "memory"

/-- What stands in a file that is opened as a store. -/
inductive StoreFile where
  | catalog (c : Catalog)
  /-- Contents that no store has. -/
  | foreign
  deriving DecidableEq

namespace StoreFile

/-- A new or empty file. -/
def empty : StoreFile := catalog .empty

/-- The catalog of a file. -/
def read : StoreFile → Except EngineError Catalog
  | catalog c => .ok c
  | foreign => .error .notAStore

/-- Brings the store in a file to the latest schema: what it answers, and the file afterwards. -/
def migrate (f : StoreFile) : Except StoreError (List Log.Record) × StoreFile :=
  match f.read with
  | .error e => (.error (.engine e), f)
  | .ok c =>
    let (answer, h) := (Handle.on c).migrate
    -- a connection that is closed leaves what is stored
    (answer, .catalog h.stored)

/-- Brings the store in a file to the latest schema; the catalog afterwards with the records. -/
def bootstrap (f : StoreFile) : Except StoreError (Catalog × List Log.Record) :=
  match f.migrate with
  | (.error e, _) => .error e
  | (.ok log, f') => do return (← f'.read.mapError .engine, log)

end StoreFile

/-! ## §1. Connections. -/

/-- Every connection enforces the references between tables. -/
def enforcesReferences : Bool := true

/-- How many milliseconds a connection waits for a lock. -/
def busyTimeout : Nat := 5000

/-! ## §2. Records. -/

/-- A record of an opening. -/
def openRecord (level : Log.Level) (status : Log.Status) (mode : StoreMode)
    (more : List (String × String)) : Log.Record :=
  { level, event := "db_open", source := "db", status, fields := ("mode", mode.name) :: more }

/-- The record of the start. -/
def openStarted (mode : StoreMode) : Log.Record := openRecord .info .start mode []

/-- The record of an opening that took the given time. -/
def openFinished (mode : StoreMode) (duration : String) : Log.Record :=
  openRecord .info .ok mode [("duration_ms", duration)]

/-- The record of an opening that failed. -/
def openFailed (mode : StoreMode) (duration code text : String) : Log.Record :=
  openRecord .error .error mode
    [("duration_ms", duration), ("error_code", code), ("error", text)]

/-! ## §3. Opening. -/

/-- What an opening answers and leaves. -/
structure Opening where
  result : Except StoreError Unit
  /-- The file afterwards. -/
  file : StoreFile
  log : List Log.Record

/-- **Opens the store in a file**; the time that it takes comes from outside. -/
def openFile (mode : StoreMode) (duration : String) (f : StoreFile) : Opening :=
  match f.migrate with
  | (.ok log, file) =>
    { result := .ok ()
      file
      log := openStarted mode :: log ++ [openFinished mode duration] }
  | (.error e, file) =>
    { result := .error e
      file
      log := [openStarted mode, openFailed mode duration "db_bootstrap_failed" e.message] }

/-- The failure to open a file at all, with its records. -/
def openRefused (mode : StoreMode) (duration : String) (e : EngineError) :
    StoreError × List Log.Record :=
  (.engine e, [openStarted mode, openFailed mode duration "db_open_failed" e.message])

end Namebook.Schema
