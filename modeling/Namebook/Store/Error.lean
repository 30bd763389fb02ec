/-
  Namebook.Store.Error
  ────────────────────
  **Why the storage engine refuses a statement.**

  An engine error is a cause with a result code and a text.  The code tells which errors only say
  that another connection holds a lock, so that trying again may help; the text of a uniqueness
  failure tells which column would have held a value twice.
-/

namespace Namebook

/-- An error of the storage engine. -/
inductive EngineError where
  /-- Another connection holds a lock. -/
  | locked
  /-- A transaction is begun inside a transaction. -/
  | nestedTransaction
  /-- A transaction is rolled back where none is open. -/
  | noTransaction
  /-- A value would stand twice in a column, written `table.column`. -/
  | unique (column : String)
  /-- A row would refer to a missing row. -/
  | foreignKey
  /-- A row breaks a condition of its table. -/
  | check (condition : String)
  /-- A trigger forbids the change. -/
  | forbidden (text : String)
  /-- A query for one row found none. -/
  | noRows
  /-- An integer does not fit the type it is read as. -/
  | outOfRange (value : Int)
  /-- A sum left the range of stored integers and cannot be read back as one. -/
  | overflow (index : Nat) (column : String)
  /-- The file of the store cannot be opened. -/
  | cannotOpen (path : String)
  /-- The file holds no store. -/
  | notAStore
  /-- A statement does not fit the tables at hand. -/
  | statement (text : String)
  /-- Any other failure: a result code, and a text where the engine gives one. -/
  | other (code : Int) (text : Option String)
  deriving DecidableEq

namespace EngineError

/-- The text of a result code that comes without one. -/
def describe (code : Int) : String :=
  if code = 5 then "The database file is locked"
  else if code = 6 then "A table in the database is locked"
  else if code = 1555 then "A PRIMARY KEY constraint failed"
  else if code = 2067 then "A UNIQUE constraint failed"
  else "Unknown error code"

/-- What the text of a uniqueness failure begins with. -/
def uniqueHead : String := "UNIQUE constraint failed: "

/-- The text of an error. -/
def message : EngineError → String
  | locked => "database is locked"
  | nestedTransaction => "cannot start a transaction within a transaction"
  | noTransaction => "cannot rollback - no transaction is active"
  | unique column => uniqueHead ++ column
  | foreignKey => "FOREIGN KEY constraint failed"
  | check condition => "CHECK constraint failed: " ++ condition
  | forbidden text => text
  | noRows => "Query returned no rows"
  | outOfRange value => "Integer " ++ toString value ++ " out of range at index 0"
  | overflow index column =>
    "Invalid column type Real at index: " ++ toString index ++ ", name: " ++ column
  | cannotOpen path => "unable to open database file: " ++ path
  | notAStore => "file is not a database"
  | statement text => text
  | other _ (some text) => text
  | other code none => "Error code " ++ toString code ++ ": " ++ describe code

/-- The extended result code, for errors that have one. -/
def code? : EngineError → Option Int
  | locked => some 5
  | nestedTransaction => some 1
  | noTransaction => some 1
  | unique _ => some 2067
  | foreignKey => some 787
  | check _ => some 275
  | forbidden _ => some 1811
  | noRows => none
  | outOfRange _ => none
  | overflow _ _ => none
  | cannotOpen _ => some 14
  | notAStore => some 26
  | statement _ => some 1
  | other code _ => some code

/-- The primary part of an extended result code: its low eight bits. -/
def primaryCode (code : Int) : Int := code % 256

/-- Whether the error only says that something is locked: primary code 5 or 6. -/
def isBusy (e : EngineError) : Bool :=
  match e.code? with
  | some code => primaryCode code = 5 || primaryCode code = 6
  | none => false

/-- The rest of a text after a given head. -/
def afterHead? : List Char → List Char → Option (List Char)
  | [], cs => some cs
  | _ :: _, [] => none
  | h :: hs, c :: cs => if h = c then afterHead? hs cs else none

/-- The column that would have held a value twice: read off the text of an error whose code is that
of a uniqueness failure, of a unique column (2067) or a primary key (1555). -/
def uniqueTarget? : EngineError → Option String
  | unique column => some column
  | other code (some text) =>
    if code = 2067 ∨ code = 1555 then
      (afterHead? uniqueHead.toList text.toList).map String.ofList
    else none
  | _ => none

end EngineError

/-- An error of the store. -/
inductive StoreError where
  | engine (e : EngineError)
  /-- The store was written by a later version of the schema. -/
  | unsupportedVersion (found latest : Nat)
  deriving DecidableEq

namespace StoreError

/-- The text of an error. -/
def message : StoreError → String
  | engine e => e.message
  | unsupportedVersion found latest =>
    "database schema version " ++ toString found ++ " is newer than supported " ++ toString latest

/-- Whether trying again may help. -/
def isBusy : StoreError → Bool
  | engine e => e.isBusy
  | unsupportedVersion _ _ => false

/-- The column that would have held a value twice. -/
def uniqueTarget? : StoreError → Option String
  | engine e => e.uniqueTarget?
  | unsupportedVersion _ _ => none

/-- The texts of the errors beneath this one. -/
def sources : StoreError → List String
  | engine e => [e.message]
  | unsupportedVersion _ _ => []

end StoreError

end Namebook
