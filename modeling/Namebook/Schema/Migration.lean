/-
  Namebook.Schema.Migration
  ─────────────────────────
  **Bringing a store to the latest schema.**

  Migrations are numbered from one; those with a greater number than the version of the store run in
  order and in one transaction, after which the version is the latest.  A store with a later version
  is refused.  Statements are executed one at a time on a connection, so that what a failure leaves
  is what the statements before it have done and the end of the transaction has undone.
-/
import Namebook.Log
import Namebook.Schema.Definition

namespace Namebook.Schema

/-! ## §1. The objects of a store. -/

/-- Where the names in use are kept. -/
def namePlace : NamePlace :=
  { table := "identifier_names", nameColumn := "name", kindColumn := "kind" }

/-- The tables: the names in use, the documents, and the aliases with the document of each. -/
def tableDefinitions : List Definition :=
  [.table "identifier_names" [.key "name", .plain "kind"],
   .table "documents" [.key "public_id", .plain "version", .plain "created_at", .plain "updated_at"],
   .table "aliases"
     [.key "id", .key "name",
      { name := "document_public_id", unique := false,
        references := some ("documents", "public_id") },
      .plain "is_primary", .plain "position", .plain "created_at"]]

/-- The order of aliases in their document, and the one primary alias of a document. -/
def indexDefinitions : List Definition :=
  [.index { name := "idx_aliases_document_position", table := "aliases",
            columns := ["document_public_id", "position"], single := false },
   .index { name := "idx_aliases_single_primary", table := "aliases",
            columns := ["document_public_id", "is_primary"], single := true }]

/-- Every inserted name is claimed, every deleted one released, and none is changed in place. -/
def triggerDefinitions : List Definition :=
  [.trigger { name := "trg_documents_claim_name", table := "documents",
              effect := .claim "public_id" .publicId namePlace },
   .trigger { name := "trg_documents_release_name", table := "documents",
              effect := .release "public_id" .publicId namePlace },
   .trigger { name := "trg_aliases_claim_name", table := "aliases",
              effect := .claim "name" .aliasName namePlace },
   .trigger { name := "trg_aliases_release_name", table := "aliases",
              effect := .release "name" .aliasName namePlace },
   .trigger { name := "trg_documents_public_id_immutable", table := "documents",
              effect := .forbid ["public_id"] "documents.public_id is immutable" },
   .trigger { name := "trg_aliases_name_immutable", table := "aliases",
              effect := .forbid ["name", "document_public_id"]
                "aliases.name and aliases.document_public_id are immutable" }]

/-! ## §2. Migrations. -/

/-- One step from a version of the schema to the next. -/
structure Migration where
  version : Nat
  definitions : List Definition

/-- All migrations, in order. -/
def migrations : List Migration :=
  [{ version := 1, definitions := tableDefinitions ++ indexDefinitions ++ triggerDefinitions }]

/-- The version of the latest schema. -/
def latestVersion : Nat :=
  ((migrations.map (·.version)).getLast?).getD 0

/-- The version of a store: a natural number of 32 bits. -/
def Catalog.readVersion (c : Catalog) : Except EngineError Nat :=
  if 0 ≤ c.version ∧ c.version < 0x100000000 then .ok c.version.toNat
  else .error (.outOfRange c.version)

/-- The record of a migration. -/
def migrationRecord (version : Nat) : Log.Record :=
  { level := .info
    event := "db_migrate"
    source := "db"
    status := .ok
    fields :=
      [("from_version", toString version), ("to_version", toString latestVersion)] }

/-! ## §3. Statements. -/

/-- A statement of a migration. -/
inductive Statement where
  | begin
  | define (d : Definition)
  | setVersion (version : Nat)
  | commit
  deriving DecidableEq

/-- The statements of a migration: its definitions, then the version that they lead to. -/
def Migration.statements (m : Migration) : List Statement :=
  m.definitions.map .define ++ [.setVersion m.version]

/-- The statements that bring a store of a version to the latest schema. -/
def upgrade (version : Nat) : List Statement :=
  (migrations.filter (·.version > version)).flatMap (·.statements)

/-- A store as a connection to it has it: what is stored, and what the transaction under way has made
of it. -/
structure Handle where
  stored : Catalog
  pending : Option Catalog
  deriving DecidableEq

namespace Handle

/-- A new connection to a store. -/
def on (c : Catalog) : Handle := { stored := c, pending := none }

/-- What the connection sees. -/
def current (h : Handle) : Catalog := h.pending.getD h.stored

/-- Puts a catalog in the place of what the connection sees. -/
def put (h : Handle) (c : Catalog) : Handle :=
  match h.pending with
  | some _ => { h with pending := some c }
  | none => { h with stored := c }

/-- Executes a statement; one that fails changes nothing. -/
def execute (h : Handle) : Statement → Except EngineError Handle
  | .begin =>
    match h.pending with
    | some _ => .error .nestedTransaction
    | none => .ok { h with pending := some h.stored }
  | .define d => do return h.put (← h.current.define d)
  | .setVersion version => .ok (h.put { h.current with version })
  | .commit =>
    match h.pending with
    | some c => .ok (on c)
    | none => .error (.statement "cannot commit - no transaction is active")

/-- Executes statements one after the other up to the first that fails. -/
def run (h : Handle) : List Statement → Except EngineError Unit × Handle
  | [] => (.ok (), h)
  | s :: ss =>
    match h.execute s with
    | .error e => (.error e, h)
    | .ok h' => h'.run ss

/-- Gives the transaction under way up. -/
def rollback (h : Handle) : Handle := { h with pending := none }

/-- Executes statements in one transaction, which is given up if one of them fails. -/
def transact (h : Handle) (ss : List Statement) : Except EngineError Unit × Handle :=
  match h.execute .begin with
  | .error e => (.error e, h)
  | .ok h' =>
    match h'.run (ss ++ [.commit]) with
    | (.ok (), h'') => (.ok (), h'')
    | (.error e, h'') => (.error e, h''.rollback)

/-- **Brings a store to the latest schema.**  There is a record only if migrations ran. -/
def migrate (h : Handle) : Except StoreError (List Log.Record) × Handle :=
  match h.current.readVersion with
  | .error e => (.error (.engine e), h)
  | .ok version =>
    -- a store of a later program is left alone, not downgraded
    if version > latestVersion then (.error (.unsupportedVersion version latestVersion), h)
    else if version = latestVersion then (.ok [], h)
    else match h.transact (upgrade version) with
      | (.error e, h') => (.error (.engine e), h')
      | (.ok (), h') => (.ok [migrationRecord version], h')

end Handle

end Namebook.Schema
