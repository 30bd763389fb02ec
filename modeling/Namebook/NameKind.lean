/-
  Namebook.NameKind
  ─────────────────
  **The two halves of the shared namespace.**

  Every name in use is either the public id of a document or an alias.  The kind has one text, used
  in the name index, in log records and on the wire.
-/

namespace Namebook

/-- Which half of the namespace a name belongs to. -/
inductive NameKind where
  /-- The generated, permanent id of a document. -/
  | publicId
  /-- A name that someone chose. -/
  | aliasName
  deriving DecidableEq

namespace NameKind

/-- The text of a kind. -/
def text : NameKind → String
  | publicId => "public_id"
  | aliasName => "alias"

/-- The kind with a given text. -/
def ofText? (s : String) : Option NameKind :=
  if s = "public_id" then some publicId
  else if s = "alias" then some aliasName
  else none

/-- **A text names at most one kind, and each kind is named by its text.** -/
theorem ofText?_eq_some_iff {s : String} {k : NameKind} : ofText? s = some k ↔ s = k.text := by
  unfold ofText?
  cases k <;> split <;> simp_all [text]

end NameKind

end Namebook
