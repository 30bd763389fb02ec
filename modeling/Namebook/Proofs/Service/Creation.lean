/-
  Namebook.Proofs.Service.Creation
  ────────────────────────────────
  **DRAWING AGAIN — the loop of a creation, answer by answer.**

  A creation draws an id and asks for a document under it; if the id is refused by its own name it
  records that and draws again.  Whoever answers, one turn of the loop has one of three outcomes:

    • `outcome_createFrom_taken`, `outcome_createFrom_granted`, `outcome_createFrom_exhausted`;
    • `outcome_createFrom_collisions` — some turns in a row whose ids are all taken.
-/
import Namebook.Proofs.Service.Paired

namespace Namebook

namespace DocumentService

open Call (outcome)

/-! ## §1. The records of a creation. -/

/-- The record of a draw that was taken. -/
def collisionRecord (attempt : Nat) : Log.Record :=
  Call.retryRecord createEvent
    [("reason", "public_id_collision"), ("attempt", toString attempt)]

/-- The records of some draws in a row that were taken; attempts count on from `attempt`. -/
def collisions (attempt k : Nat) : List Log.Record :=
  (List.range k).map fun j => collisionRecord (attempt + j)

theorem collisions_succ (attempt k : Nat) :
    collisions attempt (k + 1) = collisionRecord attempt :: collisions (attempt + 1) k := by
  unfold collisions
  rw [List.range_succ_eq_map, List.map_cons, List.map_map]
  refine congrArg (collisionRecord attempt :: ·) (List.map_congr_left fun j _ => ?_)
  show collisionRecord (attempt + (j + 1)) = collisionRecord (attempt + 1 + j)
  rw [Nat.add_assoc, Nat.add_comm 1 j]

/-- The record of a creation that succeeded. -/
def createdRecord (d : Document) : Log.Record :=
  Call.successRecord createEvent
    [("public_id", d.publicId), ("aliases", toString d.aliases.length)]

/-- The failure of a creation whose draws were all taken. -/
def exhausted : ServiceError :=
  .invariantViolation ("generated public ids collided " ++ toString createAttempts ++ " times")

/-- How often is said in words that clients read. -/
example : exhausted = .invariantViolation "generated public ids collided 3 times" := by decide

/-! ## §2. One turn. -/

variable {σ : Type} {answer : (r : Request) → σ → r.Answer × σ} {blocks : Nat → Block}
  {initial : Option String} {s s' : σ} {drawn : Nat}

/-- A draw that is taken is recorded, and another one follows. -/
theorem outcome_createFrom_taken
    (h : answer (.createDocument (PublicId.encode (blocks drawn)) initial) s
      = (.error (.nameTaken (PublicId.encode (blocks drawn))), s')) (attempt left : Nat) :
    outcome answer blocks (createFrom initial attempt (left + 1)) s drawn
      = (outcome answer blocks (createFrom initial (attempt + 1) left) s' (drawn + 1)).after
          [collisionRecord attempt] := by
  rw [createFrom, Call.outcome_block]
  generalize PublicId.encode (blocks drawn) = id at h ⊢
  rw [Call.outcome_request, h]
  dsimp only
  rw [if_pos rfl]
  exact Call.outcome_log _ _ _ _

/-- A draw that is granted is the last one. -/
theorem outcome_createFrom_granted {d : Document}
    (h : answer (.createDocument (PublicId.encode (blocks drawn)) initial) s = (.ok d, s'))
    (attempt left : Nat) :
    outcome answer blocks (createFrom initial attempt (left + 1)) s drawn
      = ⟨.ok d, s', [createdRecord d], drawn + 1⟩ := by
  unfold createFrom
  rw [Call.outcome_block]
  generalize PublicId.encode (blocks drawn) = id at h ⊢
  rw [Call.outcome_request, h]
  rfl

/-- Without a draw left the creation fails. -/
theorem outcome_createFrom_exhausted (attempt : Nat) :
    outcome answer blocks (createFrom initial attempt 0) s drawn
      = ⟨.error exhausted, s,
          [Call.failureRecord createEvent "-" (initial.getD "") exhausted], drawn⟩ := rfl

/-! ## §3. Turns in a row. -/

/-- **Draws that are all taken** are recorded one by one, and the loop goes on after them. -/
theorem outcome_createFrom_collisions (drawn : Nat) (states : Nat → σ) (k : Nat)
    (h : ∀ j < k, answer (.createDocument (PublicId.encode (blocks (drawn + j))) initial) (states j)
      = (.error (.nameTaken (PublicId.encode (blocks (drawn + j)))), states (j + 1)))
    (attempt left : Nat) :
    outcome answer blocks (createFrom initial attempt (k + left)) (states 0) drawn
      = (outcome answer blocks (createFrom initial (attempt + k) left) (states k) (drawn + k)).after
          (collisions attempt k) := by
  induction k generalizing states drawn attempt with
  | zero => rw [Nat.zero_add]; rfl
  | succ k ih =>
    -- the first draw is taken, and the others are so from the state that it leaves
    have hrest := ih (drawn + 1) (fun j => states (j + 1)) (fun j hj => by
      have hnext := h (j + 1) (Nat.succ_lt_succ hj)
      rwa [← Nat.add_assoc, Nat.add_right_comm] at hnext) (attempt + 1)
    have hfirst := outcome_createFrom_taken (h 0 (Nat.succ_pos k)) attempt (k + left)
    rw [Nat.add_zero drawn] at hfirst
    rw [Nat.add_right_comm k 1, hfirst, hrest, collisions_succ, Nat.add_right_comm drawn,
      Nat.add_right_comm attempt]
    rfl

end DocumentService

end Namebook
