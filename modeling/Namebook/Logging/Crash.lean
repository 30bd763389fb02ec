/-
  Namebook.Logging.Crash
  ──────────────────────
  **The record of a crash.**

  A crash carries a payload, mostly the text of the error that was not expected.  Only a redacted,
  bounded form of it reaches the log.
-/
import Namebook.Log
import Namebook.Text.Redaction

namespace Namebook.Logging

open Namebook.Log

/-- What a crash carries. -/
inductive CrashPayload where
  | text (message : String)
  /-- Anything else than a text. -/
  | other
  deriving DecidableEq

/-- What the log says of a payload. -/
def CrashPayload.summary : CrashPayload → String
  | text message => Text.loggablePayload message
  | other => "non-string panic payload"

/-- The record of a crash at a place of the program. -/
def crashRecord (location : String) (payload : CrashPayload) : Record :=
  { level := .error
    event := "panic_captured"
    source := "core"
    status := .error
    fields := [("location", location), ("payload", payload.summary)] }

end Namebook.Logging
