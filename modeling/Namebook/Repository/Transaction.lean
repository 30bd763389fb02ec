/-
  Namebook.Repository.Transaction
  ───────────────────────────────
  **Repository work in transactions.**

  `write` is the one way in which a repository changes anything: begin a write transaction, work,
  commit, or roll back if the work or the commit fails.  Work that fails may already have written to
  the working copy; that goes with the copy.  `snapshot` runs several queries on one state of the
  tables, and `read` a single query.
-/
import Namebook.Store.Database
import Namebook.Repository.Error

namespace Namebook

/-- Work inside one transaction.  When it fails, what it wrote before stays written until the
transaction ends. -/
abbrev Work (α : Type) := ExceptT RepositoryError (StateM Tables) α

namespace Work

/-- A query on the working copy. -/
def query {α : Type} (q : Tables → Except RepositoryError α) : Work α :=
  ExceptT.mk fun t => (q t, t)

/-- A statement on the working copy; a refused one changes nothing. -/
def change (f : Tables → Except RepositoryError Tables) : Work Unit :=
  ExceptT.mk fun t =>
    match f t with
    | .ok t' => (.ok (), t')
    | .error e => (.error e, t)

/-- The answer of some work and the working copy that it leaves. -/
def runOn {α : Type} (w : Work α) (t : Tables) : Except RepositoryError α × Tables :=
  w.run.run t

end Work

/-- An error of the engine as one of a repository. -/
def RepositoryError.ofEngine (e : EngineError) : RepositoryError := .store (.engine e)

namespace Database

/-- Runs one query outside of any transaction of its own. -/
def read {α : Type} (db : Database) (c : Connection) (query : Tables → Except RepositoryError α) :
    Except RepositoryError α :=
  match db.view c with
  | .error e => .error (.ofEngine e)
  | .ok t => query t

/-- Runs several queries on one state of the tables, in a read transaction. -/
def snapshot {α : Type} (db : Database) (c : Connection)
    (query : Tables → Except RepositoryError α) : Except RepositoryError α :=
  if db.inTransaction c then .error (.ofEngine .nestedTransaction) else db.read c query

/-- Runs work on the working copy of a connection's open transaction. -/
def work {α : Type} (db : Database) (c : Connection) (body : Work α) :
    Except RepositoryError α × Database :=
  match db.view c with
  | .error e => (.error (.ofEngine e), db)
  | .ok t =>
    let (answer, t') := body.runOn t
    (answer, db.stage c t')

/-- Rolls a connection's transaction back, if it has one. -/
def abandon (db : Database) (c : Connection) : Database :=
  match db.rollback c with
  | .ok back => back
  | .error _ => db

/-- **Runs work in a write transaction of its own**, which is committed if the work succeeds and
rolled back if the work or the commit fails. -/
def write {α : Type} (db : Database) (c : Connection) (body : Work α) :
    Except RepositoryError α × Database :=
  match db.begin c .immediate with
  | .error e => (.error (.ofEngine e), db)
  | .ok begun =>
    match begun.work c body with
    | (.ok a, done) =>
      match done.commit c with
      | .ok stored => (.ok a, stored)
      -- a commit that is refused leaves the transaction open
      | .error e => (.error (.ofEngine e), done.abandon c)
    | (.error e, failed) => (.error e, failed.abandon c)

end Database

end Namebook
