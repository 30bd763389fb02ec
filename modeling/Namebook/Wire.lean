/-
  Namebook.Wire
  ─────────────
  **The JSON forms of the records.**

  Records are written as objects with one member per field in a fixed order.  They are read from an
  object, where unknown members are ignored, or from an array that lists the fields in that order.
  Every field of an alias, a view and a document is required; a configuration takes the default
  for a field that is missing, and it has a form only if its paths are texts.
-/
import Namebook.Document
import Namebook.NameKind
import Namebook.Config
import Namebook.Json
import Namebook.Integer
import Namebook.Files.Path

namespace Namebook

namespace Wire

/-! ## §1. Fields of a record. -/

/-- The values of all fields of a record with the given keys. -/
def fields? (keys : List String) : Json → Option (List Json)
  | .obj members => keys.mapM (Json.member? · members)
  | .arr items => if items.length = keys.length then some items else none
  | _ => none

/-- The values of the fields that are present, for a record whose fields may be missing. -/
def partialFields? (keys : List String) : Json → Option (List (Option Json))
  | .obj members => some (keys.map (Json.member? · members))
  | .arr items =>
    if items.length ≤ keys.length then
      some (items.map some ++ List.replicate (keys.length - items.length) none)
    else none
  | _ => none

/-- A stored integer. -/
def int64? (j : Json) : Option Int64 := do
  let n ← j.int?
  Integer.ofInt? n

/-- A text that may be `null`. -/
def optionalText? : Json → Option (Option String)
  | .null => some none
  | .str s => some (some s)
  | _ => none

/-- A list of texts. -/
def texts? (j : Json) : Option (List String) := do
  let items ← j.items?
  items.mapM Json.text?

end Wire

open Wire

/-! ## §2. Kinds of names. -/

namespace NameKind

/-- A kind is written as its text. -/
def toJson (k : NameKind) : Json := .str k.text

/-- A kind is read from its text, or from an object whose only member has that text as key and
`null` as value. -/
def ofJson? : Json → Option NameKind
  | .str s => ofText? s
  | .obj [(s, .null)] => ofText? s
  | _ => none

end NameKind

/-! ## §3. Aliases and views. -/

namespace Alias

/-- The keys of an alias. -/
def keys : List String := ["id", "name", "primary", "document_public_id"]

def toJson (a : Alias) : Json :=
  .obj [("id", .str a.id.render), ("name", .str a.name), ("primary", .bool a.primary),
    ("document_public_id", .str a.document)]

/-- Reads an alias; its id may have any of the four spellings. -/
def ofJson? (j : Json) : Option Alias :=
  match fields? keys j with
  | some [id, name, primary, document] => do
    let idText ← id.text?
    return { id := ← Uuid.parse? idText
             name := ← name.text?
             primary := ← primary.bool?
             document := ← document.text? }
  | _ => none

end Alias

namespace AliasView

/-- The keys of a view. -/
def keys : List String := ["name", "primary", "public_id"]

def toJson (v : AliasView) : Json :=
  .obj [("name", .str v.name), ("primary", .bool v.primary), ("public_id", .str v.publicId)]

def ofJson? (j : Json) : Option AliasView :=
  match fields? keys j with
  | some [name, primary, publicId] => do
    return { name := ← name.text?
             primary := ← primary.bool?
             publicId := ← publicId.text? }
  | _ => none

end AliasView

/-! ## §4. Documents. -/

namespace Document

/-- The keys of a document. -/
def keys : List String := ["public_id", "aliases", "version", "created_at", "updated_at"]

def toJson (d : Document) : Json :=
  .obj [("public_id", .str d.publicId), ("aliases", .arr (d.aliases.map Alias.toJson)),
    ("version", .int d.version.toInt), ("created_at", .int d.createdAt.toInt),
    ("updated_at", .int d.updatedAt.toInt)]

def ofJson? (j : Json) : Option Document :=
  match fields? keys j with
  | some [publicId, aliases, version, createdAt, updatedAt] => do
    let items ← aliases.items?
    return { publicId := ← publicId.text?
             aliases := ← items.mapM Alias.ofJson?
             version := ← int64? version
             createdAt := ← int64? createdAt
             updatedAt := ← int64? updatedAt }
  | _ => none

end Document

/-! ## §5. Configurations. -/

namespace CoreConfig

/-- The keys of a configuration. -/
def keys : List String := ["db_path", "log_level", "log_dir", "forbidden_names"]

def toJson (c : CoreConfig) : Json :=
  .obj [("db_path", Json.ofText? c.dbPath), ("log_level", .str c.logLevel),
    ("log_dir", Json.ofText? c.logDir), ("forbidden_names", Json.ofTexts c.forbiddenNames)]

/-- The reading of a field, or the default if the field is missing. -/
def fieldOr {α : Type} (standard : α) (read : Json → Option α) : Option Json → Option α
  | none => some standard
  | some j => read j

/-- Reads a configuration; missing fields take the defaults. -/
def ofJson? (j : Json) : Option CoreConfig :=
  match partialFields? keys j with
  | some [dbPath, logLevel, logDir, forbiddenNames] => do
    return { dbPath := ← fieldOr default.dbPath optionalText? dbPath
             logLevel := ← fieldOr default.logLevel Json.text? logLevel
             logDir := ← fieldOr default.logDir optionalText? logDir
             forbiddenNames := ← fieldOr default.forbiddenNames texts? forbiddenNames }
  | _ => none

end CoreConfig

/-- A configuration whose paths are as the system knows them. -/
structure RawConfig where
  dbPath : Option RawPath
  logLevel : String
  logDir : Option RawPath
  forbiddenNames : List String
  deriving DecidableEq

/-- A configuration with its paths as the system knows them. -/
def CoreConfig.raw (c : CoreConfig) : RawConfig :=
  { dbPath := c.dbPath.map .text
    logLevel := c.logLevel
    logDir := c.logDir.map .text
    forbiddenNames := c.forbiddenNames }

namespace RawConfig

/-- A path as a text, unless it is none. -/
def textPath? : Option RawPath → Option (Option String)
  | none => some none
  | some (.text path) => some (some path)
  | some (.undecodable _) => none

/-- A configuration is written if its paths are texts. -/
def toJson? (c : RawConfig) : Option Json := do
  let dbPath ← textPath? c.dbPath
  let logDir ← textPath? c.logDir
  return CoreConfig.toJson
    { dbPath, logLevel := c.logLevel, logDir, forbiddenNames := c.forbiddenNames }

def ofJson? (j : Json) : Option RawConfig :=
  (CoreConfig.ofJson? j).map CoreConfig.raw

end RawConfig

end Namebook
