/-
  Namebook.Store.Snapshot
  ───────────────────────
  **A store as JSON.**

  A snapshot has the version of the schema and the rows of the three tables.
-/
import Namebook.Integer
import Namebook.Json
import Namebook.Schema.Migration
import Namebook.Store.Tables

namespace Namebook

namespace Snapshot

/-! ## §1. Writing. -/

/-- A row of the name index. -/
def nameJson (n : NameRow) : Json := .arr [.str n.name, .str n.kind]

/-- A row of a document. -/
def documentJson (d : DocumentRow) : Json :=
  .arr [.str d.publicId, .int d.version.toInt, .int d.createdAt.toInt, .int d.updatedAt.toInt]

/-- A row of an alias. -/
def aliasJson (a : AliasRow) : Json :=
  .arr [.str a.id, .str a.name, .str a.document, .int a.flag.toInt, .int a.position.toInt]

/-- The snapshot of a store. -/
def ofTables (t : Tables) : Json :=
  .obj [("version", .int Schema.latestVersion),
    ("names", .arr (t.names.map nameJson)),
    ("documents", .arr (t.documents.map documentJson)),
    ("aliases", .arr (t.aliases.map aliasJson)),
    ("one_primary", .bool t.onePrimary)]

/-! ## §2. Reading. -/

/-- The integer of a value, if it can be stored. -/
def int64? (j : Json) : Option Int64 := j.int? >>= Integer.ofInt?

/-- Reads a row of the name index. -/
def name? : Json → Option NameRow
  | .arr [.str name, .str kind] => some { name, kind }
  | _ => none

/-- Reads a row of a document. -/
def document? : Json → Option DocumentRow
  | .arr [.str publicId, version, createdAt, updatedAt] => do
    return { publicId
             version := ← int64? version
             createdAt := ← int64? createdAt
             updatedAt := ← int64? updatedAt }
  | _ => none

/-- Reads a row of an alias. -/
def alias? : Json → Option AliasRow
  | .arr [.str id, .str name, .str document, flag, position] => do
    return { id, name, document, flag := ← int64? flag, position := ← int64? position }
  | _ => none

/-- Reads the rows of a table. -/
def rows? {α : Type} (j : Json) (table : String) (row? : Json → Option α) : Option (List α) := do
  (← (← j.get? table).items?).mapM row?

/-- The store of a snapshot; a version that is not the latest is refused, and so is anything that
is no snapshot. -/
def tables? (j : Json) : Except StoreError Tables :=
  match j.get? "version" >>= Json.int? with
  | none => .error (.engine .notAStore)
  | some version =>
    if version ≠ Schema.latestVersion then
      .error (.unsupportedVersion version.toNat Schema.latestVersion)
    else
      let t : Option Tables := do
        return { names := ← rows? j "names" name?
                 documents := ← rows? j "documents" document?
                 aliases := ← rows? j "aliases" alias?
                 onePrimary := ← j.get? "one_primary" >>= Json.bool? }
      match t with
      | some t => .ok t
      | none => .error (.engine .notAStore)

end Snapshot

end Namebook
