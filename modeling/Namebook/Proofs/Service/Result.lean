/-
  Namebook.Proofs.Service.Result
  ──────────────────────────────
  **THE RESULT OF A CALL, STEP BY STEP.**

  Whoever answers, the result of a call is its value with the state that is left and the blocks
  drawn.  The rules `result_…` compute it along a call; what is logged does not count.
-/
import Namebook.Proofs.Service.Client

namespace Namebook

namespace Dialogue

variable {α β σ : Type}

/-- The value of a run, and what is left. -/
def result (answer : (r : Request) → σ → r.Answer × σ) (blocks : Nat → Block) (d : Dialogue α)
    (s : σ × Nat) : α × σ × Nat :=
  let o := d.run answer blocks s.1 s.2
  (o.value, o.state, o.draws)

variable {answer : (r : Request) → σ → r.Answer × σ} {blocks : Nat → Block}

/-- Two dialogues in a row: the second starts where the first ended. -/
theorem result_bind (d : Dialogue α) (f : α → Dialogue β) (s : σ × Nat) :
    (d >>= f).result answer blocks s =
      (f (d.result answer blocks s).1).result answer blocks (d.result answer blocks s).2 := by
  show (d.bind f).result answer blocks s = _
  obtain ⟨s, drawn⟩ := s
  induction d generalizing s drawn with
  | done a => rfl
  | ask r next ih => exact ih (answer r s).1 (answer r s).2 drawn
  | draw next ih => exact ih (blocks drawn) s (drawn + 1)
  | record entry next ih => exact ih s drawn

end Dialogue

namespace Call

variable {α β σ : Type} (answer : (r : Request) → σ → r.Answer × σ) (blocks : Nat → Block)

/-- The result of a call. -/
def result (call : Call α) (s : σ × Nat) : Except ServiceError α × σ × Nat :=
  Dialogue.result answer blocks (ExceptT.run call) s

variable {answer blocks}

theorem result_answer (v : Except ServiceError α) (s : σ × Nat) :
    result answer blocks (ExceptT.mk (pure v)) s = (v, s) := rfl

/-- A call goes on with the value of its first part, or ends with its failure. -/
theorem result_bind (x : Call β) (f : β → Call α) (s : σ × Nat) :
    result answer blocks (x >>= f) s =
      match result answer blocks x s with
      | (.ok b, s') => result answer blocks (f b) s'
      | (.error e, s') => (.error e, s') := by
  show Dialogue.result answer blocks (ExceptT.run x >>= _) s = _
  rw [Dialogue.result_bind]
  unfold result
  cases Dialogue.result answer blocks (ExceptT.run x) s with
  | mk v s' =>
    cases v with
    | ok b => rfl
    | error e => rfl

/-- A request as a step of a call. -/
theorem result_request (r : Request) (s : σ × Nat) :
    result answer blocks (Dialogue.request r : Dialogue r.Answer) s
      = (.ok (answer r s.1).1, (answer r s.1).2, s.2) := rfl

/-- A request whose refusal ends the call. -/
theorem result_ofAnswer (r : Request) (s : σ × Nat) :
    result answer blocks (ofAnswer (Dialogue.request r)) s
      = ((answer r s.1).1.mapError ServiceError.ofRepository, (answer r s.1).2, s.2) := rfl

/-- The record of a failure changes nothing but the log. -/
theorem result_logged (event publicId name : String) (call : Call α) (s : σ × Nat) :
    result answer blocks (logged event publicId name call) s = result answer blocks call s := by
  show Dialogue.result answer blocks (ExceptT.run call >>= _) s = _
  rw [Dialogue.result_bind]
  unfold result
  cases Dialogue.result answer blocks (ExceptT.run call) s with
  | mk v s' =>
    cases v with
    | ok a => rfl
    | error e => rfl

/-- The record of a success changes nothing but the log. -/
theorem result_report (x : Call α) (entry : α → Log.Record) (s : σ × Nat) :
    result answer blocks (do
      let a ← x
      (Dialogue.log (entry a) : Dialogue Unit)
      return a) s = result answer blocks x s := by
  rw [result_bind]
  cases result answer blocks x s with
  | mk v s' =>
    cases v with
    | ok a => rfl
    | error e => rfl

end Call

namespace Database

variable {db : Database} {c : Connection} {supply : Supply} {k m : Nat}

/-- A request of a call is one of the store, and is counted. -/
theorem serve_of_answer {fresh : Nat → Fresh} {r : Request} {a : r.Answer} {db' : Database}
    (h : db.answer c (fresh k) r = (a, db')) : serve c fresh r (db, k) = (a, (db', k + 1)) := by
  unfold serve
  rw [h]

/-- What a call gives and leaves, from its result. -/
theorem call_of_result {α : Type} {body : Call α} {v : Except ServiceError α} {db' : Database}
    (h : Call.result (serve c supply.fresh) supply.blocks body ((db, 0), 0) = (v, (db', k), m)) :
    (db.call c supply body).value = v ∧ (db.call c supply body).state = db' :=
  ⟨congrArg (fun o => o.1) h, congrArg (fun o => o.2.1.1) h⟩

/-- A look-up for a service, answered from a store. -/
theorem result_lookup {r : Request} {v : r.Found}
    (h : db.answer c (supply.fresh k) r = (.ok v, db)) :
    Call.result (serve c supply.fresh) supply.blocks (Call.ofAnswer (Dialogue.request r))
      ((db, k), m) = (.ok v, (db, k + 1), m) := by
  rw [Call.result_ofAnswer, serve_of_answer h]
  rfl

/-- A request for a service that a store refuses. -/
theorem result_refused {r : Request} {e : RepositoryError}
    (h : (db.answer c (supply.fresh k) r).1 = .error e) :
    Call.result (serve c supply.fresh) supply.blocks (Call.ofAnswer (Dialogue.request r))
      ((db, k), m) = (.error (.ofRepository e), (db, k + 1), m) := by
  have hanswer : db.answer c (supply.fresh k) r = (.error e, db) := Prod.ext h (answer_of_error h)
  rw [Call.result_ofAnswer, serve_of_answer hanswer]
  rfl

/-- A request of a service, answered by a store. -/
theorem result_asked {α : Type} {r : Request} (f : r.Answer → Call α) :
    Call.result (serve c supply.fresh) supply.blocks
        ((Dialogue.request r : Dialogue r.Answer) >>= f) ((db, k), m)
      = Call.result (serve c supply.fresh) supply.blocks (f (db.answer c (supply.fresh k) r).1)
        (((db.answer c (supply.fresh k) r).2, k + 1), m) := by
  rw [Call.result_bind, Call.result_request]
  rfl

end Database

end Namebook
