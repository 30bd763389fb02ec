/-
  Namebook.Service.Call
  ─────────────────────
  **Service calls and how their failures are logged.**

  A call is a dialogue that may fail.  A failed call writes one record: at level error with the
  redacted text if the fault is internal, else at level info with its kind.  Records give the length
  of a name in bytes and never the name.
-/
import Namebook.Text.Redaction
import Namebook.NameList
import Namebook.Service.Error
import Namebook.Service.Dialogue

namespace Namebook

/-- A dialogue that may fail. -/
abbrev Call (α : Type) := ExceptT ServiceError Dialogue α

namespace Call

/-! ## §1. Requests. -/

/-- A repository's answer as a step of a call. -/
def ofAnswer {α : Type} (answer : Dialogue (Except RepositoryError α)) : Call α :=
  ExceptT.mk do return (← answer).mapError ServiceError.ofRepository

def findAliasByName (name : String) : Call (Option Alias) :=
  ofAnswer (Dialogue.request (.findAliasByName name))

def findByPublicId (publicId : String) : Call (Option Document) :=
  ofAnswer (Dialogue.request (.findByPublicId publicId))

def findByAlias (name : String) : Call (Option Document) :=
  ofAnswer (Dialogue.request (.findByAlias name))

/-! ## §2. Records. -/

/-- The length of a name in the log: its UTF-8 bytes. -/
def lengthText (name : String) : String := toString name.utf8ByteSize

/-- The record of a failed call. -/
def failureRecord (event publicId name : String) (e : ServiceError) : Log.Record :=
  if e.kind = .internal then
    { level := .error
      event
      source := "service"
      status := .error
      fields := [("public_id", publicId), ("name_len", lengthText name),
        ("error", Text.redactNames e.message)] }
  else
    { level := .info
      event
      source := "service"
      status := .rejected
      fields := [("public_id", publicId), ("name_len", lengthText name), ("kind", e.kind.text)] ++
        (match e with
         | .alreadyExists _ conflict => [("conflict", conflict.text)]
         | _ => []) }

/-- The record of a call that succeeded. -/
def successRecord (event : String) (fields : List (String × String)) : Log.Record :=
  { level := .info, event, source := "service", status := .ok, fields }

/-- The record of an attempt that is made again. -/
def retryRecord (event : String) (fields : List (String × String)) : Log.Record :=
  { level := .warn, event, source := "service", status := .retry, fields }

/-- Fails with a record. -/
def fail {α : Type} (event publicId name : String) (e : ServiceError) : Call α := do
  Dialogue.log (failureRecord event publicId name e)
  throw e

/-- A call whose failure is recorded. -/
def logged {α : Type} (event publicId name : String) (call : Call α) : Call α :=
  tryCatch call (fail event publicId name)

/-! ## §3. Names. -/

/-- Rejects blank and reserved names, in this order. -/
def checkName (reserved : ReservedNames) (name : String) : Except ServiceError Unit :=
  if Text.isBlank name then .error .invalidName
  else if reserved.contains name then .error (.forbiddenName name)
  else .ok ()

end Call

end Namebook
