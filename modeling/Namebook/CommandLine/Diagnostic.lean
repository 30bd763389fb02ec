/-
  Namebook.CommandLine.Diagnostic
  ───────────────────────────────
  **Errors in full, for whoever runs the program.**

  A diagnostic names the case of an error with all that it carries, texts between quotes, where the
  message of an error is meant for clients.
-/
import Namebook.Service.Error
import Namebook.Text.Quoted

namespace Namebook

namespace Diagnostic

/-- A case with its parts in parentheses. -/
def tuple (name : String) (parts : List String) : String :=
  name ++ "(" ++ String.intercalate ", " parts ++ ")"

/-- A case with named parts in braces. -/
def fields (name : String) (parts : List (String × String)) : String :=
  name ++ " \x7b " ++ String.intercalate ", " (parts.map fun p => p.1 ++ ": " ++ p.2) ++ " \x7d"

end Diagnostic

open Diagnostic

/-- The name of a primary result code. -/
def EngineError.codeName (code : Int) : String :=
  match code with
  | 2 => "InternalMalfunction"
  | 3 => "PermissionDenied"
  | 4 => "OperationAborted"
  | 5 => "DatabaseBusy"
  | 6 => "DatabaseLocked"
  | 7 => "OutOfMemory"
  | 8 => "ReadOnly"
  | 9 => "OperationInterrupted"
  | 10 => "SystemIoFailure"
  | 11 => "DatabaseCorrupt"
  | 12 => "NotFound"
  | 13 => "DiskFull"
  | 14 => "CannotOpen"
  | 15 => "FileLockingProtocolFailed"
  | 17 => "SchemaChanged"
  | 18 => "TooBig"
  | 19 => "ConstraintViolation"
  | 20 => "TypeMismatch"
  | 21 => "ApiMisuse"
  | 22 => "NoLargeFileSupport"
  | 23 => "AuthorizationForStatementDenied"
  | 25 => "ParameterOutOfRange"
  | 26 => "NotADatabase"
  | _ => "Unknown"

/-- A failure with a result code. -/
def EngineError.failure (code : Int) (text : Option String) : String :=
  tuple "SqliteFailure"
    [fields "Error"
      [("code", codeName (primaryCode code)), ("extended_code", toString code)],
     match text with
     | some t => tuple "Some" [Text.quoted t]
     | none => "None"]

/-- An error of the engine in full. -/
def EngineError.diagnostic : EngineError → String
  | noRows => "QueryReturnedNoRows"
  | outOfRange value => tuple "IntegralValueOutOfRange" ["0", toString value]
  | overflow index column =>
    tuple "InvalidColumnType" [toString index, Text.quoted column, "Real"]
  | other code text => failure code text
  | e => failure (e.code?.getD 1) (some e.message)

/-- An error of the store in full. -/
def StoreError.diagnostic : StoreError → String
  | engine e => tuple "Sqlite" [e.diagnostic]
  | unsupportedVersion found latest =>
    fields "UnsupportedSchemaVersion"
      [("db_version", toString found), ("latest_supported", toString latest)]

/-- A fault of a document in full. -/
def DocumentFault.diagnostic : DocumentFault → String
  | emptyPublicId => "EmptyPublicId"
  | missingPrimary p => fields "MissingPrimary" [("public_id", Text.quoted p)]
  | multiplePrimaries p count =>
    fields "MultiplePrimaries" [("public_id", Text.quoted p), ("count", toString count)]
  | foreignAlias p id =>
    fields "ForeignAlias" [("public_id", Text.quoted p), ("alias_id", id.render)]
  | aliasShadowsPublicId p => fields "AliasShadowsPublicId" [("public_id", Text.quoted p)]

/-- An error of a repository in full. -/
def RepositoryError.diagnostic : RepositoryError → String
  | store e => tuple "Db" [e.diagnostic]
  | invalid fault => tuple "Validation" [fault.diagnostic]
  | documentNotFound p => tuple "DocumentNotFound" [Text.quoted p]
  | aliasNotFound p n =>
    fields "AliasNotFound" [("public_id", Text.quoted p), ("name", Text.quoted n)]
  | nameTaken n => tuple "NameTaken" [Text.quoted n]
  | primaryNotSole p n count =>
    fields "PrimaryAliasNotSole"
      [("public_id", Text.quoted p), ("name", Text.quoted n), ("alias_count", toString count)]
  | unready expected actual =>
    fields "UninitializedConnection"
      [("expected_version", toString expected), ("actual_version", toString actual)]
  | missingTable t => tuple "MissingRequiredTable" [Text.quoted t]
  | missingColumn t c =>
    fields "MissingRequiredColumn" [("table", Text.quoted t), ("column", Text.quoted c)]
  | invalidData text => tuple "InvalidData" [Text.quoted text]

/-- An error of a service in full. -/
def ServiceError.diagnostic : ServiceError → String
  | invalidName => "InvalidName"
  | forbiddenName n => tuple "ForbiddenName" [Text.quoted n]
  | alreadyExists n conflict =>
    fields "AlreadyExists"
      [("name", Text.quoted n),
       ("conflict", match conflict with
        | .aliasName => "Alias"
        | .publicId => "PublicId")]
  | aliasNotFound n => fields "AliasNotFound" [("name", Text.quoted n)]
  | documentNotFound p => tuple "DocumentNotFound" [Text.quoted p]
  | primaryRemovalForbidden n => fields "PrimaryRemovalForbidden" [("name", Text.quoted n)]
  | invariantViolation text => tuple "InvariantViolation" [Text.quoted text]
  | repository e => tuple "Repo" [e.diagnostic]

end Namebook
