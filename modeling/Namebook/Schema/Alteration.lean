/-
  Namebook.Schema.Alteration
  ──────────────────────────
  **Changing a catalog from outside.**

  Other programs may drop, rename and make tables, and insert documents.  Renaming follows a name
  through indexes, references and triggers, and is refused while some trigger names something that
  is not there.
-/
import Namebook.Schema.Catalog

namespace Namebook.Schema

/-! ## §1. Renaming inside objects. -/

/-- Puts a new table name in the place of an old one. -/
def NamePlace.renameTable (old new : String) (p : NamePlace) : NamePlace :=
  { p with table := renamed old new p.table }

/-- Renames a column of a table. -/
def NamePlace.renameColumn (table old new : String) (p : NamePlace) : NamePlace :=
  if sameName p.table table then
    { p with nameColumn := renamed old new p.nameColumn, kindColumn := renamed old new p.kindColumn }
  else p

namespace TriggerEffect

/-- Changes the place of names. -/
def mapPlace (f : NamePlace → NamePlace) : TriggerEffect → TriggerEffect
  | claim source kind place => claim source kind (f place)
  | release source kind place => release source kind (f place)
  | forbid columns text => forbid columns text

/-- Changes the columns of the trigger's own table. -/
def mapColumns (f : String → String) : TriggerEffect → TriggerEffect
  | claim source kind place => claim (f source) kind place
  | release source kind place => release (f source) kind place
  | forbid columns text => forbid (columns.map f) text

end TriggerEffect

namespace Trigger

/-- Puts a new table name in the place of an old one. -/
def renameTable (old new : String) (t : Trigger) : Trigger :=
  { t with
    table := renamed old new t.table
    effect := t.effect.mapPlace (·.renameTable old new) }

/-- Renames a column of a table. -/
def renameColumn (table old new : String) (t : Trigger) : Trigger :=
  let effect := t.effect.mapPlace (·.renameColumn table old new)
  { t with
    effect := if sameName t.table table then effect.mapColumns (renamed old new) else effect }

end Trigger

namespace Index

/-- Puts a new table name in the place of an old one. -/
def renameTable (old new : String) (i : Index) : Index :=
  { i with table := renamed old new i.table }

/-- Renames a column of a table. -/
def renameColumn (table old new : String) (i : Index) : Index :=
  if sameName i.table table then { i with columns := i.columns.map (renamed old new) } else i

end Index

namespace Table

/-- Puts a new table name in the place of an old one. -/
def renameTable (old new : String) (t : Table) : Table :=
  { t with
    name := renamed old new t.name
    columns := t.columns.map fun c =>
      { c with references := c.references.map fun r => (renamed old new r.1, r.2) } }

/-- Renames a column of a table. -/
def renameColumn (table old new : String) (t : Table) : Table :=
  let follow (r : String × String) : String × String :=
    if sameName r.1 table then (r.1, renamed old new r.2) else r
  -- the table itself may be the one whose column is renamed
  let own (name : String) : String :=
    if sameName t.name table then renamed old new name else name
  { t with
    columns := t.columns.map fun c =>
      { c with name := own c.name, references := c.references.map follow } }

end Table

namespace Catalog

/-! ## §2. Dangling names. -/

/-- Whether everything that a trigger names is there. -/
def resolves (c : Catalog) (t : Trigger) : Bool :=
  let ownColumn (column : String) : Bool :=
    match c.table? t.table with
    | some table => table.hasColumn column
    | none => false
  match t.effect with
  | .claim source _ place => ownColumn source && c.hasRelation place.table
  | .release source _ place =>
    ownColumn source &&
      match c.table? place.table with
      | some table => table.hasColumn place.nameColumn && table.hasColumn place.kindColumn
      | none => false
  | .forbid _ _ => true

/-- Refuses a renaming while a trigger names something that is not there. -/
def ensureResolved (c : Catalog) : Except EngineError Unit :=
  match c.triggers.find? (!c.resolves ·) with
  | some t => .error (.statement ("error in trigger " ++ t.name))
  | none => .ok ()

/-! ## §3. Making, dropping and renaming. -/

/-- Names with this head belong to the engine. -/
def reservedHead : String := "sqlite_"

/-- A new table or view needs a name of its own. -/
def ensureFreeName (c : Catalog) (name : String) : Except EngineError Unit :=
  if (folded reservedHead).isPrefixOf (folded name) then
    .error (.statement ("object name reserved for internal use: " ++ name))
  else if c.hasRelation name then .error (.statement ("table " ++ name ++ " already exists"))
  else if c.hasIndex name then .error (.statement ("there is already an index named " ++ name))
  else .ok ()

/-- Whether a name stands twice, without regard to case. -/
def hasRepeat : List String → Bool
  | [] => false
  | n :: ns => ns.any (sameName n) || hasRepeat ns

/-- Makes a table of columns without rules. -/
def createTable (c : Catalog) (name : String) (columns : List String) :
    Except EngineError Catalog := do
  c.ensureFreeName name
  if columns.isEmpty then throw (.statement "a table needs a column")
  if hasRepeat columns then throw (.statement "duplicate column name")
  return { c with tables := c.tables ++ [{ name, columns := columns.map .plain, rows := [] }] }

/-- Makes a view. -/
def createView (c : Catalog) (name : String) : Except EngineError Catalog := do
  c.ensureFreeName name
  return { c with views := c.views ++ [name] }

/-- The table of a name. -/
def requireTable (c : Catalog) (name : String) : Except EngineError Table :=
  match c.table? name with
  | some t => .ok t
  | none => .error (.statement ("no such table: " ++ name))

/-- Whether a column of a table refers to a unique column of another table. -/
def refersTo (column : Column) (t : Table) : Bool :=
  match column.references with
  | none => false
  | some (table, key) =>
    sameName table t.name && t.columns.any fun k => sameName k.name key && k.unique

/-- The triggers that deleting the rows of a table sets off in the tables that refer to it. -/
def triggersBelow (c : Catalog) (t : Table) : List Trigger :=
  c.triggers.filter fun trigger =>
    match trigger.effect, c.table? trigger.table with
    | .release _ _ _, some below => below.columns.any (refersTo · t)
    | _, _ => false

/-- Drops a table with its rows, its indexes and its triggers.  The rows go first, with those that
refer to them, so the triggers of these must make sense. -/
def dropTable (c : Catalog) (name : String) : Except EngineError Catalog := do
  let t ← c.requireTable name
  match (c.triggersBelow t).find? (!c.resolves ·) with
  | some trigger => throw (.statement ("error in trigger " ++ trigger.name))
  | none =>
    return { c with
      tables := c.tables.filter fun t => !sameName t.name name
      indexes := c.indexes.filter fun i => !sameName i.table name
      triggers := c.triggers.filter fun t => !sameName t.table name }

/-- Renames a table. -/
def renameTable (c : Catalog) (old new : String) : Except EngineError Catalog := do
  let _ ← c.requireTable old
  c.ensureFreeName new
  c.ensureResolved
  return { c with
    tables := c.tables.map (·.renameTable old new)
    indexes := c.indexes.map (·.renameTable old new)
    triggers := c.triggers.map (·.renameTable old new) }

/-- Renames a column. -/
def renameColumn (c : Catalog) (table old new : String) : Except EngineError Catalog := do
  let t ← c.requireTable table
  if !t.hasColumn old then throw (.statement ("no such column: " ++ old))
  c.ensureResolved
  if t.columns.any fun column => sameName column.name new && !sameName column.name old then
    throw (.statement ("duplicate column name: " ++ new))
  return { c with
    tables := c.tables.map (·.renameColumn table old new)
    indexes := c.indexes.map (·.renameColumn table old new)
    triggers := c.triggers.map (·.renameColumn table old new) }

/-- Sets the version; what is no integer of 32 bits counts as zero. -/
def setVersion (c : Catalog) (version : Int) : Catalog :=
  { c with version := if -0x80000000 ≤ version ∧ version < 0x80000000 then version else 0 }

/-! ## §4. Rows. -/

/-- The cells of a row that has the given texts in the given columns. -/
def rowOf (t : Table) (values : List (String × String)) : Row :=
  t.columns.map fun c => (values.find? fun v => sameName v.1 c.name).map fun v => .text v.2

/-- The first unique column in which a row repeats a value. -/
def repeated? (t : Table) (row : Row) : Option String :=
  ((t.columns.zip row).zipIdx.find? fun ((column, cell), i) =>
    column.unique && cell.isSome && t.rows.any fun r => (r[i]?).join == cell).map (·.1.1.name)

/-- Inserts values into a table, without regard to triggers. -/
def insertRow (c : Catalog) (table : String) (values : List (String × String)) :
    Except EngineError Catalog := do
  let t ← c.requireTable table
  match values.find? fun v => !t.hasColumn v.1 with
  | some v => throw (.statement ("table " ++ table ++ " has no column named " ++ v.1))
  | none =>
    match repeated? t (rowOf t values) with
    | some column => throw (.unique (t.name ++ "." ++ column))
    | none => return c.updateTable table fun t => { t with rows := t.rows ++ [rowOf t values] }

/-- Whether references to a table lead to columns that are not unique. -/
def hasLooseReference (c : Catalog) (t : Table) : Bool :=
  c.tables.any fun other => other.columns.any fun column =>
    (column.references.any fun r => sameName r.1 t.name) && !refersTo column t

/-- What inserting into a table claims: the column whose value is claimed, the kind and the place. -/
def claimsOn (c : Catalog) (table : String) : List (String × NameKind × NamePlace) :=
  c.triggers.filterMap fun t =>
    match t.effect with
    | .claim source kind place => if sameName t.table table then some (source, kind, place) else none
    | _ => none

/-- Refuses a claim whose source or place is not there. -/
def ensureClaim (c : Catalog) (t : Table) (source : String) (place : NamePlace) :
    Except EngineError Unit := do
  if !t.hasColumn source then throw (.statement ("no such column: NEW." ++ source))
  let names ← c.requireTable place.table
  match [place.nameColumn, place.kindColumn].find? (!names.hasColumn ·) with
  | some column =>
    throw (.statement ("table " ++ place.table ++ " has no column named " ++ column))
  | none => return

/-- Inserts a document and claims its public id wherever triggers say so.  What the triggers name is
looked up before any row is written. -/
def insertDocument (c : Catalog) (publicId : String) : Except EngineError Catalog := do
  let t ← c.requireTable "documents"
  let claims := c.claimsOn "documents"
  if !claims.isEmpty && c.hasLooseReference t then
    throw (.statement "foreign key mismatch")
  -- a trigger that makes no sense fails the statement before it writes
  claims.forM fun (source, _, place) => c.ensureClaim t source place
  let inserted ← c.insertRow "documents" [("public_id", publicId)]
  claims.foldlM (fun c (source, kind, place) =>
    if sameName source "public_id" then
      c.insertRow place.table [(place.nameColumn, publicId), (place.kindColumn, kind.text)]
    else throw (.statement "a name is missing")) inserted

/-- The names in use with their kinds, by name. -/
def names (c : Catalog) : Except EngineError (List (String × String)) := do
  let t ← c.requireTable "identifier_names"
  match t.columnIndex? "name", t.columnIndex? "kind" with
  | some n, some k =>
    let shown (cell : Option Cell) : String := (cell.map (·.shown)).getD ""
    let pairs := t.rows.map fun r => (shown (r[n]?).join, shown (r[k]?).join)
    return pairs.mergeSort fun a b => decide (a.1 ≤ b.1)
  | none, _ => throw (.statement "no such column: name")
  | _, none => throw (.statement "no such column: kind")

end Catalog

end Namebook.Schema
