/-
  Namebook.Store.Tables
  ─────────────────────
  **The three tables of a store.**

  `documents` and `aliases` hold the records; `names` is the index of all names in use, one row per
  public id and one per alias.  Rows hold what is stored, which other programs may have written: an
  alias id is any text and a primary flag any integer.

  Every cell has the type that its column declares.  The tables are not strict, so an engine would
  also store a blob in a column of texts, or a text that is no number in a column of integers; such
  cells are not represented.
-/
import Namebook.NameKind

namespace Namebook

/-! ## §1. Rows. -/

/-- A name in use, with the text of its kind. -/
structure NameRow where
  name : String
  kind : String
  deriving DecidableEq

/-- A stored document. -/
structure DocumentRow where
  publicId : String
  version : Int64
  createdAt : Int64
  updatedAt : Int64
  deriving DecidableEq

/-- A stored alias.  Its column `created_at` is left out: the store fills it in when the row is inserted,
and no function reads or changes it.  As everywhere here, a cell has the type of its column. -/
structure AliasRow where
  /-- The text of the alias id. -/
  id : String
  name : String
  /-- The public id of the owner. -/
  document : String
  /-- One for a primary alias, zero for any other. -/
  flag : Int64
  position : Int64
  deriving DecidableEq

/-- The contents of a store. -/
structure Tables where
  names : List NameRow
  documents : List DocumentRow
  aliases : List AliasRow
  /-- Whether the index that allows a document one primary alias is in place. -/
  onePrimary : Bool
  deriving DecidableEq

namespace Tables

/-- A new store. -/
def empty : Tables :=
  { names := [], documents := [], aliases := [], onePrimary := true }

/-! ## §2. Look-ups. -/

/-- The row of a document. -/
def document? (t : Tables) (publicId : String) : Option DocumentRow :=
  t.documents.find? (·.publicId == publicId)

/-- Whether a document is stored. -/
def hasDocument (t : Tables) (publicId : String) : Bool :=
  t.documents.any (·.publicId == publicId)

/-- The row of an alias. -/
def alias? (t : Tables) (name : String) : Option AliasRow :=
  t.aliases.find? (·.name == name)

/-- The row of a name in use. -/
def name? (t : Tables) (name : String) : Option NameRow :=
  t.names.find? (·.name == name)

/-- The alias rows of a document, in no particular order. -/
def aliasesOf (t : Tables) (publicId : String) : List AliasRow :=
  t.aliases.filter (·.document == publicId)

/-! ## §3. The order of a document's aliases. -/

/-- By position, then by the text of the id. -/
def precedes (a b : AliasRow) : Bool :=
  decide (a.position < b.position) || (a.position == b.position && decide (a.id < b.id))

/-- Puts a row before the first one that it precedes. -/
def insertRow (a : AliasRow) : List AliasRow → List AliasRow
  | [] => [a]
  | b :: bs => if precedes a b then a :: b :: bs else b :: insertRow a bs

/-- Rows in the order of their positions and ids. -/
def sortRows (rows : List AliasRow) : List AliasRow :=
  rows.foldr insertRow []

theorem perm_insertRow (a : AliasRow) (rows : List AliasRow) :
    (insertRow a rows).Perm (a :: rows) := by
  induction rows with
  | nil => exact List.Perm.refl _
  | cons b bs ih =>
    unfold insertRow
    split
    · exact List.Perm.refl _
    · exact (List.Perm.cons b ih).trans (List.Perm.swap a b bs)

/-- **Sorting keeps every row once.** -/
theorem perm_sortRows (rows : List AliasRow) : (sortRows rows).Perm rows := by
  induction rows with
  | nil => exact List.Perm.refl _
  | cons a rows ih => exact (perm_insertRow a _).trans (List.Perm.cons a ih)

end Tables

end Namebook
