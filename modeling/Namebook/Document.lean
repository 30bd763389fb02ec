/-
  Namebook.Document
  ─────────────────
  **Documents and their aliases.**

  A document has a permanent public id and an ordered list of aliases, one of which is primary if
  there is any.  `validate` is the gate that every loaded document passes: it reports the first
  fault in a fixed order (a blank public id, then per alias a foreign owner or a name equal to the
  public id, then a wrong number of primaries).
-/
import Namebook.Text.Blank
import Namebook.Uuid

namespace Namebook

/-! ## §1. The records. -/

/-- A chosen name of a document. -/
structure Alias where
  id : Uuid
  name : String
  /-- Whether this is the alias shown first. -/
  primary : Bool
  /-- The public id of the document that owns the alias. -/
  document : String
  deriving DecidableEq

/-- An alias as clients see it. -/
structure AliasView where
  name : String
  primary : Bool
  publicId : String
  deriving DecidableEq

/-- A document with its aliases in the order of their positions. -/
structure Document where
  publicId : String
  aliases : List Alias
  /-- Counts the changes of the alias list. -/
  version : Int64
  /-- Milliseconds since the epoch. -/
  createdAt : Int64
  /-- Milliseconds since the epoch. -/
  updatedAt : Int64
  deriving DecidableEq

/-- The shape of a valid alias list. -/
inductive AliasState where
  | noAlias
  | singlePrimary
  | multiAlias
  deriving DecidableEq

/-- A fault of a document. -/
inductive DocumentFault where
  /-- The public id is blank. -/
  | emptyPublicId
  /-- There are aliases but none is primary. -/
  | missingPrimary (publicId : String)
  /-- More than one alias is primary. -/
  | multiplePrimaries (publicId : String) (count : Nat)
  /-- An alias belongs to another document. -/
  | foreignAlias (publicId : String) (id : Uuid)
  /-- An alias is named like the document's public id. -/
  | aliasShadowsPublicId (publicId : String)
  deriving DecidableEq

/-- The text of a fault. -/
def DocumentFault.message : DocumentFault → String
  | emptyPublicId => "document public_id must not be empty"
  | missingPrimary p => "document " ++ p ++ " has aliases but no primary alias"
  | multiplePrimaries p n => "document " ++ p ++ " has " ++ toString n ++ " primary aliases"
  | foreignAlias p id =>
    "alias " ++ id.render ++ " listed under document " ++ p ++ " belongs to another document"
  | aliasShadowsPublicId p => "document " ++ p ++ " has an alias equal to its public_id"

namespace Document

/-! ## §2. Looking at a document. -/

/-- The shape that the number of aliases stands for. -/
def aliasState (d : Document) : AliasState :=
  match d.aliases with
  | [] => .noAlias
  | [_] => .singlePrimary
  | _ => .multiAlias

/-- The first alias that is primary. -/
def primaryAlias? (d : Document) : Option Alias :=
  d.aliases.find? (·.primary)

/-- The first alias with a name. -/
def aliasNamed? (d : Document) (name : String) : Option Alias :=
  d.aliases.find? (·.name == name)

/-- The names of the aliases in order. -/
def names (d : Document) : List String :=
  d.aliases.map (·.name)

/-- The number of primary aliases. -/
def primaryCount (d : Document) : Nat :=
  d.aliases.countP (·.primary)

/-! ## §3. Validation. -/

/-- What is wrong with one alias of the document `publicId`: a foreign owner counts first. -/
def aliasFault? (publicId : String) (a : Alias) : Option DocumentFault :=
  if a.document ≠ publicId then some (.foreignAlias publicId a.id)
  else if a.name = publicId then some (.aliasShadowsPublicId publicId)
  else none

/-- What is wrong with the number of primaries. -/
def primaryFault? (d : Document) : Option DocumentFault :=
  if d.aliases = [] then none
  else match d.primaryCount with
    | 0 => some (.missingPrimary d.publicId)
    | 1 => none
    | n => some (.multiplePrimaries d.publicId n)

/-- The first fault of a document, if it has one. -/
def fault? (d : Document) : Option DocumentFault :=
  if Text.isBlank d.publicId then some .emptyPublicId
  else match d.aliases.findSome? (aliasFault? d.publicId) with
    | some f => some f
    | none => d.primaryFault?

/-- Accepts a document without faults and otherwise names the first. -/
def validate (d : Document) : Except DocumentFault Unit :=
  match d.fault? with
  | some f => .error f
  | none => .ok ()

theorem validate_eq_ok_iff {d : Document} : d.validate = .ok () ↔ d.fault? = none := by
  unfold validate
  split <;> simp_all

theorem validate_eq_error_iff {d : Document} {f : DocumentFault} :
    d.validate = .error f ↔ d.fault? = some f := by
  unfold validate
  split <;> simp_all

end Document

end Namebook
