/-
  Namebook.Repository.Answer
  ──────────────────────────
  **Answering requests from a store.**

  A change runs in a write transaction that checks everything again on the tables it works on and
  ends by loading the document, so no change is committed that leaves its document undecodable or
  faulty.
-/
import Namebook.Repository.Rows
import Namebook.Repository.Request

namespace Namebook

/-- What a change needs from outside: an id for a new alias, and the time. -/
structure Fresh where
  id : Uuid
  now : Int64

namespace Work

/-- Appends an alias to a document. -/
def createAlias (fresh : Fresh) (publicId name : String) : Work Document := do
  query (Rows.ensureDocument · publicId)
  if (← query (Rows.nameClaim · name)).isSome then
    throw (.nameTaken name)
  -- decided from the rows as they stand now, whatever the caller was shown
  let primary ← query fun t => .ok (t.aliasesOf publicId).isEmpty
  let position ← query (Rows.nextPosition · publicId)
  change (Rows.insertAlias { id := fresh.id, name, primary, document := publicId } position)
  change (Rows.touch publicId fresh.now)
  query (Rows.loadRequired · publicId)

/-- Deletes an alias of a document; a primary one only if it is the last. -/
def deleteAlias (fresh : Fresh) (publicId name : String) : Work Document := do
  query (Rows.ensureDocument · publicId)
  let a ← query (Rows.ownedAlias · publicId name)
  let count ← query fun t => .ok (t.aliasesOf publicId).length
  if a.primary && decide (count > 1) then
    throw (.primaryNotSole publicId name count)
  change fun t => .ok (Rows.deleteAlias a.id t)
  change (Rows.touch publicId fresh.now)
  query (Rows.loadRequired · publicId)

/-- Makes an alias of a document its primary one.  Nothing changes, and the version stays, if it
already is. -/
def promoteAlias (fresh : Fresh) (publicId name : String) : Work Document := do
  query (Rows.ensureDocument · publicId)
  let a ← query (Rows.ownedAlias · publicId name)
  -- two primary aliases at a time are refused, so the flag is cleared first
  if !a.primary then
    change fun t => .ok (Rows.demoteAll publicId t)
    change (Rows.promote a.id)
    change (Rows.touch publicId fresh.now)
  query (Rows.loadRequired · publicId)

/-- A name must not be in use. -/
def ensureUnclaimed (name : String) : Work Unit := do
  if (← query (Rows.nameClaim · name)).isSome then
    throw (.nameTaken name)

/-- Creates a document, with a primary alias if one is given. -/
def createDocument (fresh : Fresh) (publicId : String) (initial : Option String) :
    Work Document := do
  ensureUnclaimed publicId
  match initial with
  | none => change (Rows.insertDocument publicId fresh.now)
  | some name =>
    -- neither name is claimed yet, so only this test keeps the two apart
    if name = publicId then
      throw (.nameTaken name)
    ensureUnclaimed name
    change (Rows.insertDocument publicId fresh.now)
    change (Rows.insertAlias { id := fresh.id, name, primary := true, document := publicId } 0)
  query (Rows.loadRequired · publicId)

end Work

namespace Database

/-- **The answer of a store to a request over one of its connections.** -/
def answer (db : Database) (c : Connection) (fresh : Fresh) : (r : Request) → r.Answer × Database
  | .findAliasByName name => (db.read c (Rows.findAlias · name), db)
  | .createAlias publicId name => db.write c (Work.createAlias fresh publicId name)
  | .deleteAlias publicId name => db.write c (Work.deleteAlias fresh publicId name)
  | .promoteAlias publicId name => db.write c (Work.promoteAlias fresh publicId name)
  | .createDocument publicId initial => db.write c (Work.createDocument fresh publicId initial)
  | .findByPublicId publicId => (db.snapshot c (Rows.loadDocument · publicId), db)
  | .findByAlias name => (db.snapshot c (Rows.findByAlias · name), db)

/-- Whether repositories can be opened on a connection: the schema must be readable. -/
def ready (db : Database) (c : Connection) : Except RepositoryError Unit :=
  db.read c fun _ => .ok ()

end Database

end Namebook
