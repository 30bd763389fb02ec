/-
  Namebook.Log
  ────────────
  **Structured log records.**

  A record has a level, an event, the module that reports it, a status and further fields.  Its line
  lists them as `key=value` pairs in that order.  Services hand records back as data; writing them
  is left to whoever runs the service.
-/

namespace Namebook.Log

/-- How severe a record is. -/
inductive Level where
  | trace
  | debug
  | info
  | warn
  | error
  deriving DecidableEq

namespace Level

/-- The lowercase name of a level. -/
def name : Level → String
  | trace => "trace"
  | debug => "debug"
  | info => "info"
  | warn => "warn"
  | error => "error"

/-- The level as written at the head of a log line. -/
def label : Level → String
  | trace => "TRACE"
  | debug => "DEBUG"
  | info => "INFO"
  | warn => "WARN"
  | error => "ERROR"

/-- How much a level lets through: the greater, the fewer records. -/
def severity : Level → Nat
  | trace => 0
  | debug => 1
  | info => 2
  | warn => 3
  | error => 4

/-- Whether records of level `l` are written while `active` is the active level. -/
def passes (active l : Level) : Bool :=
  decide (active.severity ≤ l.severity)

end Level

/-- What a record says of its event. -/
inductive Status where
  | start
  | ok
  | retry
  | rejected
  | error
  deriving DecidableEq

/-- The text of a status. -/
def Status.text : Status → String
  | start => "start"
  | ok => "ok"
  | retry => "retry"
  | rejected => "rejected"
  | error => "error"

/-- One log record. -/
structure Record where
  level : Level
  event : String
  /-- The part of the program that reports. -/
  source : String
  status : Status
  fields : List (String × String)
  deriving DecidableEq

namespace Record

/-- A field as text. -/
def fieldText (f : String × String) : String :=
  " " ++ f.1 ++ "=" ++ f.2

/-- The message of a record. -/
def message (r : Record) : String :=
  "event=" ++ r.event ++ " module=" ++ r.source ++ " status=" ++ r.status.text ++
    String.join (r.fields.map fieldText)

/-- The message after the level. -/
def line (r : Record) : String :=
  r.level.label ++ " " ++ r.message

end Record

end Namebook.Log
