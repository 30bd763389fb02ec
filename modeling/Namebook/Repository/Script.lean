/-
  Namebook.Repository.Script
  ──────────────────────────
  **Repositories that answer from a script.**

  Each kind of request has a list of responses; every request of the kind takes the next one, and
  the last one repeats.  The script also keeps the requests in their order, so that a run on it
  shows what was asked.
-/
import Namebook.Repository.Request

namespace Namebook

/-- A prepared response. -/
inductive Response where
  /-- Nothing is found; a change does not find its document. -/
  | missing
  | document (d : Document)
  | found (a : Alias)
  | failure (e : RepositoryError)

/-- Prepared responses, and the requests made so far. -/
structure Script where
  responses : RequestKind → List Response
  asked : List Request

namespace Script

/-- A script before its first request. -/
def ofResponses (responses : RequestKind → List Response) : Script :=
  { responses, asked := [] }

/-- The next response of a list and the list that remains: the last response stays. -/
def next : List Response → Response × List Response
  | [] => (.missing, [])
  | [r] => (r, [r])
  | r :: rs => (r, rs)

/-- A response to a request that looks for an alias. -/
def foundAlias : Response → Except RepositoryError (Option Alias)
  | .found a => .ok (some a)
  | .failure e => .error e
  | _ => .ok none

/-- A response to a request that looks for a document. -/
def foundDocument : Response → Except RepositoryError (Option Document)
  | .document d => .ok (some d)
  | .failure e => .error e
  | _ => .ok none

/-- A response to a request that changes a document. -/
def changed (publicId : String) : Response → Except RepositoryError Document
  | .document d => .ok d
  | .failure e => .error e
  | _ => .error (.documentNotFound publicId)

/-- A response in the form of the answer to a request. -/
def respond (r : Response) : (q : Request) → q.Answer
  | .findAliasByName _ => foundAlias r
  | .createAlias p _ => changed p r
  | .deleteAlias p _ => changed p r
  | .promoteAlias p _ => changed p r
  | .createDocument p _ => changed p r
  | .findByPublicId _ => foundDocument r
  | .findByAlias _ => foundDocument r

/-- **The answer of a script to a request.** -/
def answer (q : Request) (s : Script) : q.Answer × Script :=
  let (r, rest) := next (s.responses q.kind)
  (respond r q,
    { responses := fun k => if k = q.kind then rest else s.responses k
      asked := s.asked ++ [q] })

end Script

end Namebook
