/-
  Namebook.Schema.Catalog
  ───────────────────────
  **What a store file defines.**

  A catalog has a schema version, tables with their rows, views, indexes and triggers.  It need not
  be the catalog of a store: files of other programs and stores half set up are catalogs too.
  Names are found without regard to the case of ASCII letters and keep the case they were given.
-/
import Namebook.NameKind
import Namebook.Store.Error

namespace Namebook

namespace Schema

/-! ## §1. Names. -/

/-- A name with ASCII letters in lower case. -/
def folded (name : String) : List Char := name.toList.map Char.toLower

/-- Whether two names are the same but for the case of ASCII letters. -/
def sameName (a b : String) : Bool := decide (folded a = folded b)

/-- Puts the new name in the place of the old one. -/
def renamed (old new name : String) : String := if sameName name old then new else name

/-! ## §2. Objects. -/

/-- A column of a table, as the engine lists the columns of a table.  Generated and hidden columns,
which it does not list, are not represented; nor are affinities and collations, so that two values
are the same only if they are equal. -/
structure Column where
  name : String
  /-- Whether no value may stand in it twice. -/
  unique : Bool
  /-- The table and column that its values refer to. -/
  references : Option (String × String)
  deriving DecidableEq

namespace Column

/-- A column without any rule. -/
def plain (name : String) : Column := { name, unique := false, references := none }

/-- A column in which no value may stand twice. -/
def key (name : String) : Column := { name, unique := true, references := none }

end Column

/-- A value in a row. -/
inductive Cell where
  | text (s : String)
  | integer (n : Int)
  deriving DecidableEq

/-- How a value is shown. -/
def Cell.shown : Cell → String
  | text s => s
  | integer n => toString n

/-- A row: a cell for each column, empty where the insertion named no value. -/
abbrev Row := List (Option Cell)

/-- A table with its rows. -/
structure Table where
  name : String
  columns : List Column
  rows : List Row
  deriving DecidableEq

/-- An index over some columns of a table. -/
structure Index where
  name : String
  table : String
  /-- All columns that it mentions. -/
  columns : List String
  /-- Whether it is about the rows with a one in its last column, no two of which may agree in the
  columns before. -/
  single : Bool
  deriving DecidableEq

/-- Where a trigger keeps the names in use: a table and its two columns. -/
structure NamePlace where
  table : String
  nameColumn : String
  kindColumn : String
  deriving DecidableEq

/-- What a trigger does. -/
inductive TriggerEffect where
  /-- An inserted row puts the value of a column into the place of names. -/
  | claim (source : String) (kind : NameKind) (place : NamePlace)
  /-- A deleted row takes the value of a column out of the place of names. -/
  | release (source : String) (kind : NameKind) (place : NamePlace)
  /-- Updates of some columns are refused. -/
  | forbid (columns : List String) (text : String)
  deriving DecidableEq

/-- A trigger on a table. -/
structure Trigger where
  name : String
  table : String
  effect : TriggerEffect
  deriving DecidableEq

/-- What a store file defines.  Of a view there is only its name; of tables, indexes and triggers there
is what `Column`, `Index` and `TriggerEffect` can say, and so no column that is generated or hidden. -/
structure Catalog where
  /-- The schema version as stored: any integer of 32 bits. -/
  version : Int
  tables : List Table
  views : List String
  indexes : List Index
  triggers : List Trigger
  deriving DecidableEq

namespace Table

/-- Whether a table has a column, without regard to case. -/
def hasColumn (t : Table) (column : String) : Bool :=
  t.columns.any fun c => sameName c.name column

/-- The place of a column among the columns. -/
def columnIndex? (t : Table) (column : String) : Option Nat :=
  t.columns.findIdx? fun c => sameName c.name column

/-- The value that a row has in a column. -/
def cell? (t : Table) (row : Row) (column : String) : Option Cell :=
  (t.columnIndex? column).bind fun i => (row[i]?).join

/-- What may not repeat among the rows that an index is about; nothing for a row that it is not about
and for one with an empty cell, which agrees with no other. -/
def singleKey? (t : Table) (i : Index) (row : Row) : Option (List Cell) :=
  match i.columns.getLast? with
  | none => none
  | some mark =>
    if t.cell? row mark = some (.integer 1) then i.columns.dropLast.mapM (t.cell? row) else none

/-- Whether the rows of a table satisfy an index. -/
def satisfies (t : Table) (i : Index) : Bool :=
  !i.single || decide (t.rows.filterMap (t.singleKey? i)).Nodup

end Table

/-! ## §3. Look-ups. -/

namespace Catalog

/-- A new file. -/
def empty : Catalog := { version := 0, tables := [], views := [], indexes := [], triggers := [] }

/-- The table of a name. -/
def table? (c : Catalog) (name : String) : Option Table :=
  c.tables.find? fun t => sameName t.name name

/-- Whether there is a view of a name. -/
def hasView (c : Catalog) (name : String) : Bool :=
  c.views.any (sameName name)

/-- Whether there is an index of a name. -/
def hasIndex (c : Catalog) (name : String) : Bool :=
  c.indexes.any fun i => sameName i.name name

/-- Whether there is a trigger of a name. -/
def hasTrigger (c : Catalog) (name : String) : Bool :=
  c.triggers.any fun t => sameName t.name name

/-- Whether a name belongs to a table or a view. -/
def hasRelation (c : Catalog) (name : String) : Bool :=
  (c.table? name).isSome || c.hasView name

/-- The columns of a table in order; none where there is no table. -/
def columnsOf (c : Catalog) (name : String) : List String :=
  match c.table? name with
  | some t => t.columns.map (·.name)
  | none => []

/-- All objects by kind, then by name. -/
def objects (c : Catalog) : List (String × String) :=
  let sorted (names : List String) : List String := names.mergeSort fun a b => decide (a ≤ b)
  (sorted (c.indexes.map (·.name))).map (("index", ·)) ++
    (sorted (c.tables.map (·.name))).map (("table", ·)) ++
    (sorted (c.triggers.map (·.name))).map (("trigger", ·)) ++
    (sorted c.views).map (("view", ·))

/-- Changes the table of a name. -/
def updateTable (c : Catalog) (name : String) (f : Table → Table) : Catalog :=
  { c with tables := c.tables.map fun t => if sameName t.name name then f t else t }

end Catalog

end Schema

end Namebook
