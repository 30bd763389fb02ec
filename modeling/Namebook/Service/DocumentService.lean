/-
  Namebook.Service.DocumentService
  ────────────────────────────────
  **Creating and resolving documents.**

  A new document gets a generated public id.  An id that is taken is replaced by another draw, three
  draws in all.
-/
import Namebook.Service.Call

namespace Namebook

namespace DocumentService

open Call

/-- How many public ids are drawn for one document. -/
def createAttempts : Nat := 3

/-- The event of creating a document. -/
def createEvent : String := "document_create"

/-- **The document with a public id or an alias**, the public id first. -/
def resolve (name : String) : Call Document :=
  logged "document_resolve" "-" name do
    match ← findByPublicId name with
    | some d => return d
    | none =>
      match ← findByAlias name with
      | some d => return d
      | none => throw (.documentNotFound name)

/-- An initial alias must pass the name check and be neither an alias nor a public id. -/
def checkInitial (reserved : ReservedNames) (name : String) : Call Unit := do
  ExceptT.mk (pure (checkName reserved name))
  if (← findByAlias name).isSome then
    throw (.alreadyExists name .aliasName)
  if (← findByPublicId name).isSome then
    throw (.alreadyExists name .publicId)

/-- The failure of a creation whose name was taken meanwhile. -/
def takenMeanwhile (publicId name : String) : Call Document := do
  let conflict := if (← findByPublicId name).isSome then .publicId else .aliasName
  fail createEvent publicId name (.alreadyExists name conflict)

/-- Creates a document; `attempt` counts from one and `left` draws are allowed. -/
def createFrom (initial : Option String) (attempt : Nat) : Nat → Call Document
  | 0 =>
    fail createEvent "-" (initial.getD "") (.invariantViolation
      ("generated public ids collided " ++ toString createAttempts ++ " times"))
  | left + 1 => do
    let publicId := PublicId.encode (← (Dialogue.block : Dialogue Block))
    match ← (Dialogue.request (.createDocument publicId initial) :
        Dialogue (Except _ Document)) with
    | .ok d =>
      Dialogue.log (successRecord createEvent
        [("public_id", d.publicId), ("aliases", toString d.aliases.length)])
      return d
    | .error (.nameTaken name) =>
      -- another draw helps if the id was taken, not if the alias was
      if name = publicId then
        Dialogue.log (retryRecord createEvent
          [("reason", "public_id_collision"), ("attempt", toString attempt)])
        createFrom initial (attempt + 1) left
      else takenMeanwhile publicId name
    | .error e => fail createEvent publicId (initial.getD "") (ServiceError.ofRepository e)

/-- **Creates a document**, with its first, primary alias if one is given. -/
def create (reserved : ReservedNames) (initial : Option String) : Call Document := do
  match initial with
  | none => pure ()
  | some name => logged createEvent "-" name (checkInitial reserved name)
  createFrom initial 1 createAttempts

end DocumentService

end Namebook
