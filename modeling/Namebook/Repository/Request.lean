/-
  Namebook.Repository.Request
  ───────────────────────────
  **What services ask of repositories.**

  Seven requests, each with the type of its answer.  Services are written against this interface
  only, so they run on a store, on a script, or with other clients acting between two requests.
-/
import Namebook.Repository.Error

namespace Namebook

/-- A request to a repository. -/
inductive Request where
  /-- The alias with exactly this name, of any document. -/
  | findAliasByName (name : String)
  /-- Append an alias; it becomes primary if the document had none. -/
  | createAlias (publicId name : String)
  /-- Delete an alias of the document and release its name. -/
  | deleteAlias (publicId name : String)
  /-- Move the primary flag to an alias of the document. -/
  | promoteAlias (publicId name : String)
  /-- Create a document, with its first alias if one is given. -/
  | createDocument (publicId : String) (initial : Option String)
  /-- The document with exactly this public id. -/
  | findByPublicId (publicId : String)
  /-- The document that owns the alias with exactly this name. -/
  | findByAlias (name : String)
  deriving DecidableEq

/-- A request without its arguments. -/
inductive RequestKind where
  | findAliasByName
  | createAlias
  | deleteAlias
  | promoteAlias
  | createDocument
  | findByPublicId
  | findByAlias
  deriving DecidableEq

namespace Request

/-- What a request gives when it succeeds: what was found, or the document as it is after the
change. -/
abbrev Found : Request → Type
  | findAliasByName _ => Option Alias
  | createAlias _ _ => Document
  | deleteAlias _ _ => Document
  | promoteAlias _ _ => Document
  | createDocument _ _ => Document
  | findByPublicId _ => Option Document
  | findByAlias _ => Option Document

/-- The answer to a request. -/
abbrev Answer (r : Request) : Type := Except RepositoryError r.Found

/-- The kind of a request. -/
def kind : Request → RequestKind
  | findAliasByName _ => .findAliasByName
  | createAlias _ _ => .createAlias
  | deleteAlias _ _ => .deleteAlias
  | promoteAlias _ _ => .promoteAlias
  | createDocument _ _ => .createDocument
  | findByPublicId _ => .findByPublicId
  | findByAlias _ => .findByAlias

end Request

end Namebook
