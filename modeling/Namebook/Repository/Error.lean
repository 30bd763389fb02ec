/-
  Namebook.Repository.Error
  ─────────────────────────
  **Why a repository refuses a request.**
-/
import Namebook.Document
import Namebook.Store.Error

namespace Namebook

/-- An error of a repository. -/
inductive RepositoryError where
  /-- The store failed. -/
  | store (e : StoreError)
  /-- A loaded document has a fault. -/
  | invalid (fault : DocumentFault)
  | documentNotFound (publicId : String)
  /-- The document has no alias of that name. -/
  | aliasNotFound (publicId name : String)
  /-- The name is in use, as a public id or as an alias. -/
  | nameTaken (name : String)
  /-- A primary alias cannot go while other aliases remain. -/
  | primaryNotSole (publicId name : String) (count : Nat)
  /-- The store has another schema version. -/
  | unready (expected actual : Nat)
  | missingTable (table : String)
  | missingColumn (table column : String)
  /-- A stored value cannot be read. -/
  | invalidData (text : String)
  deriving DecidableEq

namespace RepositoryError

/-- The text of an error. -/
def message : RepositoryError → String
  | store e => e.message
  | invalid fault => fault.message
  | documentNotFound p => "document not found: " ++ p
  | aliasNotFound p n => "alias `" ++ n ++ "` is not used by document " ++ p
  | nameTaken n => "name `" ++ n ++ "` is already in use"
  | primaryNotSole p n count =>
    "alias `" ++ n ++ "` is the primary alias of document " ++ p ++ " and " ++
      toString (count - 1) ++ " other alias(es) remain"
  | unready expected actual =>
    "identity repository requires schema version " ++ toString expected ++ ", got " ++
      toString actual
  | missingTable t => "identity repository requires table `" ++ t ++ "`"
  | missingColumn t c => "identity repository requires column `" ++ c ++ "` in table `" ++ t ++ "`"
  | invalidData text => "invalid identity data: " ++ text

/-- Whether trying again may help. -/
def isBusy : RepositoryError → Bool
  | store e => e.isBusy
  | _ => false

/-- The texts of the errors beneath this one, the outermost first. -/
def sources : RepositoryError → List String
  | store e => e.message :: e.sources
  | invalid fault => [fault.message]
  | _ => []

end RepositoryError

end Namebook
