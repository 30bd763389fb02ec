/-
  Namebook.Store.Change
  ─────────────────────
  **Changing rows under the rules of the store.**

  Each change is one statement: it either gives new tables or is refused and then changes nothing.
  The rules are the conditions on single rows, unique columns, the reference from an alias to its
  document, and the triggers: inserting a document or an alias claims its name in the index, deleting
  it releases the name, deleting a document deletes its aliases, and no statement may rename or move
  what is stored.

  Where several rules are broken the first of this order is reported: a trigger that forbids the
  change, the condition on the row, one primary per document, the alias name, the alias id, the
  name index, the reference.
-/
import Namebook.Store.Tables
import Namebook.Store.Error

namespace Namebook

/-- Which rules are enforced.  Unique columns and triggers always are. -/
structure Rules where
  /-- Aliases refer to stored documents and go with them. -/
  references : Bool
  /-- Kinds of names and primary flags have sensible values. -/
  conditions : Bool
  deriving DecidableEq

/-- All rules. -/
def Rules.all : Rules := { references := true, conditions := true }

/-- The answer to a change: the new tables, and how many rows the statement itself changed. -/
abbrev Changed := Except EngineError (Tables × Nat)

namespace Tables

/-! ## §1. The name index. -/

/-- The condition on the kind of a name. -/
def kindCondition : String := "kind IN ('public_id', 'alias')"

/-- Claims a name. -/
def claim (rules : Rules) (name kind : String) (t : Tables) : Except EngineError Tables :=
  if rules.conditions && (NameKind.ofText? kind).isNone then .error (.check kindCondition)
  else if t.names.any (·.name == name) then .error (.unique "identifier_names.name")
  else .ok { t with names := t.names ++ [⟨name, kind⟩] }

/-- Gives up a claim of the given kind; a claim of the other kind stays. -/
def release (name : String) (kind : NameKind) (t : Tables) : Tables :=
  { t with names := t.names.filter fun n => !(n.name == name && n.kind == kind.text) }

/-- Gives up a claim of any kind. -/
def releaseAny (name : String) (t : Tables) : Tables × Nat :=
  ({ t with names := t.names.filter (·.name != name) }, t.names.countP (·.name == name))

/-! ## §2. Documents. -/

/-- Inserts a document and claims its public id. -/
def insertDocument (rules : Rules) (row : DocumentRow) (t : Tables) : Except EngineError Tables :=
  if t.documents.any (·.publicId == row.publicId) then .error (.unique "documents.public_id")
  else { t with documents := t.documents ++ [row] }.claim rules row.publicId NameKind.publicId.text

/-- Deletes alias rows and releases their names. -/
def removeAliases (gone : AliasRow → Bool) (t : Tables) : Tables :=
  let rows := t.aliases.filter gone
  let rest := { t with aliases := t.aliases.filter (!gone ·) }
  rows.foldl (fun t a => t.release a.name .aliasName) rest

/-- Deletes a document, its claim and, with references enforced, its aliases. -/
def deleteDocument (rules : Rules) (publicId : String) (t : Tables) : Tables :=
  if t.hasDocument publicId then
    let t := { t with documents := t.documents.filter (·.publicId != publicId) }
    -- the claim of the public id only; an alias of that name keeps its own
    let t := t.release publicId .publicId
    if rules.references then t.removeAliases (·.document == publicId) else t
  else t

/-- Changes the row of a document. -/
def updateDocument (publicId : String) (f : DocumentRow → DocumentRow) (t : Tables) : Tables :=
  { t with documents := t.documents.map fun d => if d.publicId == publicId then f d else d }

/-- How many rows a document has: one or none. -/
def documentCount (publicId : String) (t : Tables) : Nat :=
  t.documents.countP (·.publicId == publicId)

/-! ## §3. Aliases. -/

/-- The condition on a primary flag. -/
def flagCondition : String := "is_primary IN (0, 1)"

/-- Whether a flag is zero or one. -/
def isFlag (v : Int64) : Bool := v == 0 || v == 1

/-- Inserts an alias and claims its name. -/
def insertAlias (rules : Rules) (row : AliasRow) (t : Tables) : Except EngineError Tables :=
  if rules.conditions && !isFlag row.flag then .error (.check flagCondition)
  else if t.onePrimary && row.flag == 1 &&
      t.aliases.any (fun a => a.document == row.document && a.flag == 1) then
    .error (.unique "aliases.document_public_id")
  else if t.aliases.any (·.name == row.name) then .error (.unique "aliases.name")
  else if t.aliases.any (·.id == row.id) then .error (.unique "aliases.id")
  else do
    -- the row is written before its trigger claims the name; references are checked last
    let t ← { t with aliases := t.aliases ++ [row] }.claim rules row.name NameKind.aliasName.text
    if rules.references && !t.hasDocument row.document then .error .foreignKey
    else .ok t

/-- Changes all alias rows that a test selects. -/
def updateAliases (selects : AliasRow → Bool) (f : AliasRow → AliasRow) (t : Tables) : Tables :=
  { t with aliases := t.aliases.map fun a => if selects a then f a else a }

/-- Sets the primary flag of the rows that a test selects; the test selects one row at most. -/
def setFlag (rules : Rules) (selects : AliasRow → Bool) (value : Int64) (t : Tables) :
    Except EngineError Tables :=
  match t.aliases.find? selects with
  | none => .ok t
  | some row =>
    if rules.conditions && !isFlag value then .error (.check flagCondition)
    -- the rows that are set are one row, so the others are those outside the selection
    else if t.onePrimary && value == 1 &&
        t.aliases.any (fun a => !selects a && a.document == row.document && a.flag == 1) then
      .error (.unique "aliases.document_public_id")
    else .ok (t.updateAliases selects fun a => { a with flag := value })

/-- How many alias rows a test selects. -/
def aliasCount (selects : AliasRow → Bool) (t : Tables) : Nat :=
  t.aliases.countP selects

end Tables

/-! ## §4. Changes by other programs. -/

/-- A statement that another program may run on the tables.  Statements with a conflict clause, which
pass over a refused row or put the new one in the place of the old, are not among them.  The engine
hands such a clause down to the insertions of its triggers, so an alias could be stored whose name
the index already holds for something else. -/
inductive RowChange where
  | insertDocument (row : DocumentRow)
  | deleteDocument (publicId : String)
  | renameDocument (publicId newId : String)
  | setVersion (publicId : String) (value : Int64)
  | setTimes (publicId : String) (createdAt updatedAt : Int64)
  | insertAlias (row : AliasRow)
  | deleteAlias (name : String)
  | renameAlias (name newName : String)
  | moveAlias (name document : String)
  | setId (name id : String)
  | setFlag (name : String) (value : Int64)
  | setPosition (name : String) (value : Int64)
  | clearPrimaries (document : String)
  | claimName (name kind : String)
  | releaseName (name : String)
  /-- Drops the index that allows a document one primary alias. -/
  | dropPrimaryIndex
  deriving DecidableEq

namespace Tables

/-- What the trigger on public ids says. -/
def documentsImmutable : String := "documents.public_id is immutable"

/-- What the trigger on names and owners of aliases says. -/
def aliasesImmutable : String := "aliases.name and aliases.document_public_id are immutable"

/-- A change that a trigger forbids for every row it touches. -/
def forbid (text : String) (touched : Nat) (t : Tables) : Changed :=
  if touched = 0 then .ok (t, 0) else .error (.forbidden text)

/-- **One statement of another program.** -/
def change (rules : Rules) (t : Tables) : RowChange → Changed
  | .insertDocument row => (t.insertDocument rules row).map (·, 1)
  | .deleteDocument p => .ok (t.deleteDocument rules p, t.documentCount p)
  | .renameDocument p _ => t.forbid documentsImmutable (t.documentCount p)
  | .setVersion p v => .ok (t.updateDocument p ({ · with version := v }), t.documentCount p)
  | .setTimes p c u =>
    .ok (t.updateDocument p ({ · with createdAt := c, updatedAt := u }), t.documentCount p)
  | .insertAlias row => (t.insertAlias rules row).map (·, 1)
  | .deleteAlias n => .ok (t.removeAliases (·.name == n), t.aliasCount (·.name == n))
  | .renameAlias n _ => t.forbid aliasesImmutable (t.aliasCount (·.name == n))
  | .moveAlias n _ => t.forbid aliasesImmutable (t.aliasCount (·.name == n))
  | .setId n id =>
    -- no trigger guards ids: only their uniqueness does
    if t.aliases.any (·.name == n) && t.aliases.any (fun a => a.name != n && a.id == id) then
      .error (.unique "aliases.id")
    else .ok (t.updateAliases (·.name == n) ({ · with id := id }), t.aliasCount (·.name == n))
  | .setFlag n v => (t.setFlag rules (·.name == n) v).map (·, t.aliasCount (·.name == n))
  | .setPosition n v =>
    .ok (t.updateAliases (·.name == n) ({ · with position := v }), t.aliasCount (·.name == n))
  | .clearPrimaries p =>
    .ok (t.updateAliases (·.document == p) ({ · with flag := 0 }), t.aliasCount (·.document == p))
  | .claimName n k => (t.claim rules n k).map (·, 1)
  | .releaseName n => .ok (t.releaseAny n)
  | .dropPrimaryIndex => .ok ({ t with onePrimary := false }, 0)

end Tables

end Namebook
