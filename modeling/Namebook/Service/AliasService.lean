/-
  Namebook.Service.AliasService
  ─────────────────────────────
  **Adding, removing, promoting and viewing aliases.**

  Only the public id of the document that a caller passes is used; everything else is decided from
  the stored document, inside the repository's transaction.
-/
import Namebook.Service.Call

namespace Namebook

namespace AliasService

open Call

/-- How often a promotion is tried while the store is locked. -/
def promoteAttempts : Nat := 3

/-- A new name must pass the name check and be neither an alias nor a public id. -/
def checkNew (reserved : ReservedNames) (name : String) : Call Unit := do
  ExceptT.mk (pure (checkName reserved name))
  -- a name that is both is reported as an alias
  if (← findAliasByName name).isSome then
    throw (.alreadyExists name .aliasName)
  if (← findByPublicId name).isSome then
    throw (.alreadyExists name .publicId)

/-- The error of a refused creation.  A name that was taken meanwhile is looked up once more, to
tell which half of the namespace holds it. -/
def claimFailure (name : String) : RepositoryError → Call Document
  | .nameTaken _ => do
    match ← findAliasByName name with
    | some _ => throw (.alreadyExists name .aliasName)
    | none => throw (.alreadyExists name .publicId)
  | e => throw (ServiceError.ofRepository e)

/-- Creates the alias. -/
def create (publicId name : String) : Call Document := do
  match ← (Dialogue.request (.createAlias publicId name) : Dialogue (Except _ Document)) with
  | .ok d => return d
  | .error e => claimFailure name e

/-- Whether the primary alias of a document has a name. -/
def isPrimary (d : Document) (name : String) : Bool :=
  d.primaryAlias?.any (·.name == name)

/-- **Adds an alias to a document.**  The first alias of a document is primary. -/
def add (reserved : ReservedNames) (publicId name : String) : Call Document :=
  logged "alias_add" publicId name do
    checkNew reserved name
    let d ← create publicId name
    Dialogue.log (successRecord "alias_add"
      [("public_id", d.publicId), ("name_len", lengthText name),
       ("primary", toString (isPrimary d name))])
    return d

/-- **Removes an alias from a document.**  The primary alias can only be removed when it is the
last. -/
def remove (publicId name : String) : Call Document :=
  logged "alias_remove" publicId name do
    let d ← ofAnswer (Dialogue.request (.deleteAlias publicId name))
    Dialogue.log (successRecord "alias_remove"
      [("public_id", d.publicId), ("name_len", lengthText name),
       ("remaining", toString d.aliases.length)])
    return d

/-- The error of a promotion that found the store locked every time. -/
def stillLocked (publicId : String) (attempts : Nat) (e : RepositoryError) : ServiceError :=
  .invariantViolation ("primary alias update for document " ++ publicId ++
    " still conflicting after " ++ toString attempts ++ " attempts: " ++ e.message)

/-- Tries a promotion; `onBusy` says how to go on if the store is locked. -/
def tryPromote (publicId name : String) (onBusy : RepositoryError → Call Document) :
    Call Document := do
  match ← (Dialogue.request (.promoteAlias publicId name) : Dialogue (Except _ Document)) with
  | .ok d => return d
  | .error e => if e.isBusy then onBusy e else throw (ServiceError.ofRepository e)

/-- Promotes an alias; `attempt` counts from one and `left` more attempts may follow.  The pause before
the next attempt is left out: time does not pass here unless somebody else takes a turn. -/
def promoteFrom (publicId name : String) (attempt : Nat) : (left : Nat) → Call Document
  | 0 => tryPromote publicId name fun e => throw (stillLocked publicId attempt e)
  | left + 1 =>
    tryPromote publicId name fun _ => do
      Dialogue.log (retryRecord "alias_promote"
        [("public_id", publicId), ("attempt", toString attempt)])
      promoteFrom publicId name (attempt + 1) left

/-- **Makes an alias the primary one of a document.**  A locked store is tried again. -/
def promote (publicId name : String) : Call Document :=
  logged "alias_promote" publicId name do
    let d ← promoteFrom publicId name 1 (promoteAttempts - 1)
    Dialogue.log (successRecord "alias_promote"
      [("public_id", d.publicId), ("name_len", lengthText name),
       ("version", toString d.version.toInt)])
    return d

/-- **Shows an alias together with the public id that the caller names.** -/
def view (publicId name : String) : Call AliasView :=
  logged "alias_view" publicId name do
    match ← findAliasByName name with
    | some a => return { name := a.name, primary := a.primary, publicId }
    | none => throw (.aliasNotFound name)

end AliasService

end Namebook
