/-
  Namebook.Service.Error
  ──────────────────────
  **Why a service refuses a call.**

  A service speaks of names and documents; repository errors that a client can act on become cases
  of their own, those that mean a broken invariant are reported as such, and the rest is passed on.
-/
import Namebook.NameKind
import Namebook.Repository.Error

namespace Namebook

/-- An error of a service. -/
inductive ServiceError where
  /-- The name is blank. -/
  | invalidName
  /-- The name is reserved. -/
  | forbiddenName (name : String)
  /-- The name is in use; `conflict` says in which half of the namespace. -/
  | alreadyExists (name : String) (conflict : NameKind)
  | aliasNotFound (name : String)
  | documentNotFound (publicId : String)
  /-- A primary alias cannot go while other aliases remain. -/
  | primaryRemovalForbidden (name : String)
  /-- The store breaks an invariant of the library. -/
  | invariantViolation (text : String)
  /-- The repository failed. -/
  | repository (e : RepositoryError)
  deriving DecidableEq

/-- What a client can do about an error. -/
inductive ErrorKind where
  | invalidName
  | forbiddenName
  | alreadyExists
  | notFound
  | primaryRemovalForbidden
  /-- Nothing: the fault is on this side. -/
  | internal
  deriving DecidableEq

/-- The text of a kind. -/
def ErrorKind.text : ErrorKind → String
  | invalidName => "InvalidName"
  | forbiddenName => "ForbiddenName"
  | alreadyExists => "AlreadyExists"
  | notFound => "NotFound"
  | primaryRemovalForbidden => "PrimaryRemovalForbidden"
  | internal => "Internal"

namespace ServiceError

/-- The kind of an error. -/
def kind : ServiceError → ErrorKind
  | invalidName => .invalidName
  | forbiddenName _ => .forbiddenName
  | alreadyExists _ _ => .alreadyExists
  | aliasNotFound _ => .notFound
  | documentNotFound _ => .notFound
  | primaryRemovalForbidden _ => .primaryRemovalForbidden
  | invariantViolation _ => .internal
  | repository _ => .internal

/-- The text of an error. -/
def message : ServiceError → String
  | invalidName => "alias must not be blank"
  | forbiddenName n => "alias `" ++ n ++ "` is forbidden by the administrator"
  | alreadyExists n .aliasName => "an alias named `" ++ n ++ "` already exists"
  | alreadyExists n .publicId => "a document with public id `" ++ n ++ "` already exists"
  | aliasNotFound n => "alias `" ++ n ++ "` not found"
  | documentNotFound p => "document not found: " ++ p
  | primaryRemovalForbidden n =>
    "alias `" ++ n ++ "` is the primary alias and cannot be removed while other aliases exist"
  | invariantViolation text => "identity invariant violated: " ++ text
  | repository e => e.message

/-- The texts of the errors beneath this one, the outermost first. -/
def sources : ServiceError → List String
  | repository e => e.message :: e.sources
  | _ => []

/-- The service error of a repository error. -/
def ofRepository : RepositoryError → ServiceError
  | .documentNotFound p => documentNotFound p
  | .aliasNotFound _ n => aliasNotFound n
  | .primaryNotSole _ n _ => primaryRemovalForbidden n
  | .nameTaken n => alreadyExists n .aliasName
  | .invalid fault => invariantViolation fault.message
  | .invalidData text => invariantViolation text
  | e => repository e

end ServiceError

end Namebook
