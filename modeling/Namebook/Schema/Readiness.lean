/-
  Namebook.Schema.Readiness
  ─────────────────────────
  **What repositories require of a store.**

  A store is ready if it has the latest version and all required tables with all required columns.
  The first thing missing, in the order of the requirements, is reported.  Here names count with
  their case, and a view is no table.
-/
import Namebook.Repository.Error
import Namebook.Schema.Migration

namespace Namebook.Schema

/-- A required table with its required columns. -/
structure Requirement where
  table : String
  columns : List String
  deriving DecidableEq

/-- All requirements, in order. -/
def requirements : List Requirement :=
  [{ table := "identifier_names", columns := ["name", "kind"] },
   { table := "documents", columns := ["public_id", "version", "created_at", "updated_at"] },
   { table := "aliases",
     columns := ["id", "name", "document_public_id", "is_primary", "position"] }]

namespace Catalog

/-- What is missing for a requirement. -/
def missing? (c : Catalog) (r : Requirement) : Option RepositoryError :=
  if !c.tables.any (·.name == r.table) then some (.missingTable r.table)
  else (r.columns.find? fun column => !(c.columnsOf r.table).contains column).map
    (.missingColumn r.table ·)

/-- **Whether repositories can work on a store.** -/
def ensureReady (c : Catalog) : Except RepositoryError Unit :=
  match c.readVersion with
  | .error e => .error (.store (.engine e))
  | .ok version =>
    if version ≠ latestVersion then .error (.unready latestVersion version)
    else match requirements.findSome? c.missing? with
      | some e => .error e
      | none => .ok ()

end Catalog

end Namebook.Schema
