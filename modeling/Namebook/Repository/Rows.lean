/-
  Namebook.Repository.Rows
  ────────────────────────
  **From stored rows to documents and back.**

  Loading decodes every alias row of a document, in the order of their positions, and validates the
  result: a row that cannot be decoded or a document with a fault is an error, never skipped.  The
  writing steps are the building blocks of the transactions of the repositories.
-/
import Namebook.Integer
import Namebook.Repository.Transaction

namespace Namebook

namespace Rows

/-! ## §1. Reading. -/

/-- Decodes an alias row: first its id, then its flag. -/
def decodeAlias (row : AliasRow) : Except RepositoryError Alias :=
  match Uuid.parse? row.id with
  | none => .error (.invalidData ("invalid uuid `" ++ row.id ++ "` in aliases.id"))
  | some id =>
    if row.flag = 0 then .ok { id, name := row.name, primary := false, document := row.document }
    else if row.flag = 1 then
      .ok { id, name := row.name, primary := true, document := row.document }
    else .error (.invalidData
      ("invalid is_primary value `" ++ toString row.flag.toInt ++ "` in aliases.is_primary"))

/-- The document of a row with its aliases in order, all decoded; not yet validated. -/
def assemble (t : Tables) (row : DocumentRow) : Except RepositoryError Document := do
  let aliases ← (Tables.sortRows (t.aliasesOf row.publicId)).mapM decodeAlias
  return { publicId := row.publicId
           aliases
           version := row.version
           createdAt := row.createdAt
           updatedAt := row.updatedAt }

/-- A document without faults. -/
def validated (d : Document) : Except RepositoryError Document :=
  match d.validate with
  | .ok () => .ok d
  | .error fault => .error (.invalid fault)

/-- **The document with a public id**, if it is stored. -/
def loadDocument (t : Tables) (publicId : String) : Except RepositoryError (Option Document) :=
  match t.document? publicId with
  | none => .ok none
  | some row => do
    let d ← assemble t row
    some <$> validated d

/-- The document with a public id, which must be stored. -/
def loadRequired (t : Tables) (publicId : String) : Except RepositoryError Document := do
  match ← loadDocument t publicId with
  | some d => .ok d
  | none => .error (.documentNotFound publicId)

/-- The alias with a name, of any document. -/
def findAlias (t : Tables) (name : String) : Except RepositoryError (Option Alias) :=
  match t.alias? name with
  | none => .ok none
  | some row => some <$> decodeAlias row

/-- The document that owns the alias with a name. -/
def findByAlias (t : Tables) (name : String) : Except RepositoryError (Option Document) :=
  match t.alias? name with
  | none => .ok none
  | some row => loadDocument t row.document

/-- Which half of the namespace has claimed a name, if any. -/
def nameClaim (t : Tables) (name : String) : Except RepositoryError (Option NameKind) :=
  match t.name? name with
  | none => .ok none
  | some row =>
    match NameKind.ofText? row.kind with
    | some k => .ok (some k)
    | none => .error (.invalidData
        ("invalid name kind `" ++ row.kind ++ "` in identifier_names.kind"))

/-- The document must be stored. -/
def ensureDocument (t : Tables) (publicId : String) : Except RepositoryError Unit :=
  if t.hasDocument publicId then .ok () else .error (.documentNotFound publicId)

/-- The alias with a name, which must belong to the document. -/
def ownedAlias (t : Tables) (publicId name : String) : Except RepositoryError Alias := do
  match ← findAlias t name with
  | some a => if a.document = publicId then .ok a else .error (.aliasNotFound publicId name)
  | none => .error (.aliasNotFound publicId name)

/-- The greatest position of some rows. -/
def maxPosition? : List AliasRow → Option Int64
  | [] => none
  | row :: rows =>
    match maxPosition? rows with
    | none => some row.position
    | some p => some (if p < row.position then row.position else p)

/-- The column that holds the next position. -/
def nextPositionColumn : String := "COALESCE(MAX(position), -1) + 1"

/-- The position after all aliases of a document; zero for its first alias. -/
def nextPosition (t : Tables) (publicId : String) : Except RepositoryError Int64 :=
  match Integer.next? ((maxPosition? (t.aliasesOf publicId)).getD (-1)) with
  | some p => .ok p
  | none => .error (.store (.engine (.overflow 0 nextPositionColumn)))

/-! ## §2. Writing. -/

/-- The columns that hold names. -/
def nameColumns : List String :=
  ["identifier_names.name", "aliases.name", "documents.public_id"]

/-- A refused insert of a row named `name`: a name that would stand twice is taken, anything else is
a failure of the store. -/
def claimError (name : String) (e : EngineError) : RepositoryError :=
  match e.uniqueTarget? with
  | some column => if nameColumns.contains column then .nameTaken name else .store (.engine e)
  | none => .store (.engine e)

/-- Inserts a document row. -/
def insertDocument (publicId : String) (now : Int64) (t : Tables) :
    Except RepositoryError Tables :=
  (t.insertDocument Rules.all ⟨publicId, 0, now, now⟩).mapError (claimError publicId)

/-- Inserts an alias row. -/
def insertAlias (a : Alias) (position : Int64) (t : Tables) : Except RepositoryError Tables :=
  (t.insertAlias Rules.all
    { id := a.id.render
      name := a.name
      document := a.document
      flag := if a.primary then 1 else 0
      position }).mapError (claimError a.name)

/-- Counts a change of a document's aliases.  A version at the greatest integer cannot be counted
up; the failure shows when the document is read back. -/
def touch (publicId : String) (now : Int64) (t : Tables) : Except RepositoryError Tables :=
  match t.document? publicId with
  | none => .error (.documentNotFound publicId)
  | some row =>
    match Integer.next? row.version with
    | none => .error (.store (.engine (.overflow 1 "version")))
    | some v => .ok (t.updateDocument publicId ({ · with version := v, updatedAt := now }))

/-- Deletes the alias row whose stored id is the canonical text of an id. -/
def deleteAlias (id : Uuid) (t : Tables) : Tables :=
  t.removeAliases (·.id == id.render)

/-- No alias of the document stays primary. -/
def demoteAll (publicId : String) (t : Tables) : Tables :=
  t.updateAliases (fun a => a.document == publicId && a.flag == 1) ({ · with flag := 0 })

/-- The alias row whose stored id is the canonical text of an id becomes primary. -/
def promote (id : Uuid) (t : Tables) : Except RepositoryError Tables :=
  (t.setFlag Rules.all (·.id == id.render) 1).mapError RepositoryError.ofEngine

end Rows

end Namebook
