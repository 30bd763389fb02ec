/-
  Namebook.Store.Database
  ───────────────────────
  **Connections, locks and transactions.**

  A database is its committed tables, at most one open write transaction with a working copy of
  them, and any number of open read transactions.  An immediate write transaction keeps other
  writers out, an exclusive one also readers.  Every statement of a transaction works on the copy;
  committing makes the copy the committed tables, rolling back drops it.  While another connection
  reads, nothing can be committed that changes the tables.

  Statements of other programs run on a connection's own open transaction, or else on their own.

  Nobody waits: a connection that meets a lock is refused at once.
-/
import Namebook.Store.Change

namespace Namebook

/-- How a connection is told from the others. -/
abbrev Connection := Nat

/-- The lock of a write transaction. -/
inductive LockKind where
  /-- Keeps other writers out. -/
  | immediate
  /-- Keeps other writers and readers out. -/
  | exclusive
  deriving DecidableEq

/-- An open write transaction. -/
structure Hold where
  /-- The connection whose transaction it is. -/
  owner : Connection
  kind : LockKind
  /-- The tables as the owner sees them. -/
  working : Tables
  deriving DecidableEq

/-- A store with its connections. -/
structure Database where
  committed : Tables
  /-- The open write transaction, if there is one. -/
  held : Option Hold
  /-- The connections whose open transaction only reads. -/
  readers : List Connection
  deriving DecidableEq

namespace Database

/-- A new store without open transactions. -/
def empty : Database := { committed := Tables.empty, held := none, readers := [] }

/-! ## §1. Transactions. -/

/-- Whether a connection has a transaction open. -/
def inTransaction (db : Database) (c : Connection) : Bool :=
  match db.held with
  | some h => h.owner == c || db.readers.contains c
  | none => db.readers.contains c

/-- Begins a write transaction. -/
def begin (db : Database) (c : Connection) (kind : LockKind) : Except EngineError Database :=
  if db.inTransaction c then .error .nestedTransaction
  else match db.held with
    | some _ => .error .locked
    | none =>
      -- an immediate transaction may begin beside readers; it is its commit that waits
      if kind = .exclusive ∧ db.readers ≠ [] then .error .locked
      else .ok { db with held := some ⟨c, kind, db.committed⟩ }

/-- Begins a read transaction.  It stands for a transaction that has read already: one that was begun
and has not read yet holds no lock and is not represented. -/
def beginRead (db : Database) (c : Connection) : Except EngineError Database :=
  if db.inTransaction c then .error .nestedTransaction
  else match db.held with
    | some h =>
      if h.kind = .exclusive then .error .locked
      else .ok { db with readers := c :: db.readers }
    | none => .ok { db with readers := c :: db.readers }

/-- Makes the working copy of a connection's transaction the committed tables.  A changed copy has
to wait while others read: the transaction then stays open.  A read transaction just ends. -/
def commit (db : Database) (c : Connection) : Except EngineError Database :=
  match db.held with
  | some h =>
    if h.owner = c then
      if db.readers ≠ [] ∧ h.working ≠ db.committed then .error .locked
      else .ok { db with committed := h.working, held := none }
    else .ok { db with readers := db.readers.erase c }
  | none => .ok { db with readers := db.readers.erase c }

/-- Ends a connection's transaction and drops its working copy. -/
def rollback (db : Database) (c : Connection) : Except EngineError Database :=
  match db.held with
  | some h =>
    if h.owner = c then .ok { db with held := none }
    -- the open write transaction belongs to another connection
    else if db.readers.contains c then .ok { db with readers := db.readers.erase c }
    else .error .noTransaction
  | none =>
    if db.readers.contains c then .ok { db with readers := db.readers.erase c }
    else .error .noTransaction

/-- Replaces the working copy of a connection's transaction. -/
def stage (db : Database) (c : Connection) (t : Tables) : Database :=
  match db.held with
  | some h => if h.owner = c then { db with held := some { h with working := t } } else db
  | none => db

/-! ## §2. Reading. -/

/-- The tables that a connection reads: its own working copy, or else the committed tables, unless
another connection keeps readers out. -/
def view (db : Database) (c : Connection) : Except EngineError Tables :=
  match db.held with
  | none => .ok db.committed
  | some h =>
    if h.owner = c then .ok h.working
    else match h.kind with
      | .immediate => .ok db.committed
      | .exclusive => .error .locked

/-! ## §3. Statements of other programs. -/

/-- A connection's read transaction becomes a write transaction, unless another one is open. -/
def upgrade (db : Database) (c : Connection) : Database :=
  match db.held with
  | some _ => db
  | none =>
    if db.readers.contains c then
      { db with held := some ⟨c, .immediate, db.committed⟩, readers := db.readers.erase c }
    else db

/-- Runs one statement on a connection that has no read transaction open. -/
def executeHeld (db : Database) (c : Connection) (rules : Rules) (change : RowChange) :
    Except EngineError Nat × Database :=
  match db.held with
  | some h =>
    if h.owner = c then
      match h.working.change { rules with references := true } change with
      | .ok (t, n) => (.ok n, db.stage c t)
      | .error e => (.error e, db)
    else (.error .locked, db)
  | none =>
    -- a statement on its own is a transaction that is committed at once
    match db.committed.change rules change with
    | .ok (t, n) =>
      if db.readers ≠ [] ∧ t ≠ db.committed then (.error .locked, db)
      else (.ok n, { db with committed := t })
    | .error e => (.error e, db)

/-- Runs one statement of another program on a connection: inside its open transaction, or else on
its own.  References cannot be switched off inside a transaction. -/
def execute (db : Database) (c : Connection) (rules : Rules) (change : RowChange) :
    Except EngineError Nat × Database :=
  (db.upgrade c).executeHeld c rules change

/-- Closes all connections; open transactions are rolled back. -/
def closeAll (db : Database) : Database := { db with held := none, readers := [] }

end Database

end Namebook
