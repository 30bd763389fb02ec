/-
  Namebook.Schema.Definition
  ──────────────────────────
  **Making what is missing.**

  A definition makes a table, an index or a trigger unless one of its name is there, which is then
  left as it is, whatever it looks like.  A definition that does not fit what is there is refused.
-/
import Namebook.Schema.Catalog

namespace Namebook.Schema

/-- An object to be made where it is missing. -/
inductive Definition where
  | table (name : String) (columns : List Column)
  | index (i : Index)
  | trigger (t : Trigger)
  deriving DecidableEq

namespace Catalog

/-- Makes a table; a view of the name counts as one. -/
def defineTable (c : Catalog) (name : String) (columns : List Column) :
    Except EngineError Catalog :=
  if c.hasRelation name then .ok c
  else if c.hasIndex name then .error (.statement ("there is already an index named " ++ name))
  else .ok { c with tables := c.tables ++ [{ name, columns, rows := [] }] }

/-- Makes an index.  Its table must be one, whether or not there is such an index; its columns and the
rows of the table matter only for a new one. -/
def defineIndex (c : Catalog) (i : Index) : Except EngineError Catalog :=
  match c.table? i.table with
  | none =>
    if c.hasView i.table then .error (.statement "views may not be indexed")
    else .error (.statement ("no such table: main." ++ i.table))
  | some t =>
    if c.hasRelation i.name then
      .error (.statement ("there is already a table named " ++ i.name))
    else if c.hasIndex i.name then .ok c
    else match i.columns.find? (!t.hasColumn ·) with
      | some column => .error (.statement ("no such column: " ++ column))
      | none =>
        if t.satisfies i then .ok { c with indexes := c.indexes ++ [i] }
        else .error (.unique (", ".intercalate (i.columns.dropLast.map (t.name ++ "." ++ ·))))

/-- Makes a trigger.  A trigger of the name may be anywhere, but the table must be there. -/
def defineTrigger (c : Catalog) (t : Trigger) : Except EngineError Catalog :=
  if !c.hasRelation t.table then .error (.statement ("no such table: main." ++ t.table))
  else if c.hasTrigger t.name then .ok c
  else if c.hasView t.table then
    .error (.statement ("cannot create trigger on view: " ++ t.table))
  else .ok { c with triggers := c.triggers ++ [t] }

/-- Makes an object where it is missing. -/
def define (c : Catalog) : Definition → Except EngineError Catalog
  | .table name columns => c.defineTable name columns
  | .index i => c.defineIndex i
  | .trigger t => c.defineTrigger t

/-- Makes objects one after the other. -/
def defineAll (c : Catalog) : List Definition → Except EngineError Catalog
  | [] => .ok c
  | d :: ds => do (← c.define d).defineAll ds

end Catalog

end Namebook.Schema
