/-
  Namebook.Proofs.Service.Paired
  ──────────────────────────────
  **TWO RUNS SIDE BY SIDE — calls that go the same way and write the same log.**

  Two calls run, each on a state of its own.  `Call.Paired E V` says of their outcomes that both failed,
  with errors and states in `E`, or both succeeded, with values and states in `V`; and in either case
  they wrote the same records and drew equally often.

    • `Dialogue.run_bind`, `Call.outcome_…` — a run, put together from its parts;
    • `Call.paired_…` — one rule per building block of a call.
-/
import Namebook.Proofs.Repository.Paired
import Namebook.Proofs.Service.Client

namespace Namebook

namespace Dialogue

variable {α β σ : Type} {answer : (r : Request) → σ → r.Answer × σ} {blocks : Nat → Block}

/-! ## §1. One run. -/

/-- An outcome after some records. -/
def Outcome.after (o : Outcome α σ) (log : List Log.Record) : Outcome α σ :=
  { o with log := log ++ o.log }

/-- Two dialogues in a row: the second starts where the first ended, and so does its log. -/
theorem run_bind (d : Dialogue α) (f : α → Dialogue β) (s : σ) (drawn : Nat) :
    (d >>= f).run answer blocks s drawn =
      ((f (d.run answer blocks s drawn).value).run answer blocks (d.run answer blocks s drawn).state
        (d.run answer blocks s drawn).draws).after (d.run answer blocks s drawn).log := by
  show (d.bind f).run answer blocks s drawn = _
  induction d generalizing s drawn with
  | done a => rfl
  | ask r next ih => exact ih (answer r s).1 (answer r s).2 drawn
  | draw next ih => exact ih (blocks drawn) s (drawn + 1)
  | record entry next ih =>
    show Outcome.after ((next.bind f).run answer blocks s drawn) [entry] = _
    rw [ih]
    rfl

/-- What was drawn stays drawn. -/
theorem le_draws (d : Dialogue α) (s : σ) (drawn : Nat) :
    drawn ≤ (d.run answer blocks s drawn).draws := by
  induction d generalizing s drawn with
  | done a => exact Nat.le_refl drawn
  | ask r next ih => exact ih (answer r s).1 (answer r s).2 drawn
  | draw next ih => exact Nat.le_trans (Nat.le_succ drawn) (ih (blocks drawn) s (drawn + 1))
  | record entry next ih => exact ih s drawn

end Dialogue

namespace Call

open Dialogue (Outcome)

variable {α β α' β' σ τ : Type}

section Outcome

variable (answer : (r : Request) → σ → r.Answer × σ) (blocks : Nat → Block)

/-- The outcome of a call. -/
def outcome (call : Call α) (s : σ) (drawn : Nat) : Outcome (Except ServiceError α) σ :=
  Dialogue.run answer blocks (ExceptT.run call) s drawn

variable {answer blocks}

/-- A call goes on with the value of its first part, or ends with its failure. -/
theorem outcome_bind (x : Call β) (f : β → Call α) (s : σ) (drawn : Nat) :
    outcome answer blocks (x >>= f) s drawn =
      match (outcome answer blocks x s drawn).value with
      | .ok b => (outcome answer blocks (f b) (outcome answer blocks x s drawn).state
          (outcome answer blocks x s drawn).draws).after (outcome answer blocks x s drawn).log
      | .error e => { outcome answer blocks x s drawn with value := .error e } := by
  show Dialogue.run answer blocks (ExceptT.run x >>= _) s drawn = _
  rw [Dialogue.run_bind]
  unfold outcome
  generalize Dialogue.run answer blocks (ExceptT.run x) s drawn = o
  obtain ⟨v, s', log, draws⟩ := o
  cases v with
  | ok b => rfl
  | error e =>
    show Outcome.mk _ _ (log ++ []) _ = _
    rw [List.append_nil]
    rfl

/-- The rest of a call after a request. -/
theorem outcome_request (r : Request) (f : r.Answer → Call α) (s : σ) (drawn : Nat) :
    outcome answer blocks ((Dialogue.request r : Dialogue r.Answer) >>= f) s drawn
      = outcome answer blocks (f (answer r s).1) (answer r s).2 drawn := rfl

/-- The rest of a call after a draw. -/
theorem outcome_block (f : Block → Call α) (s : σ) (drawn : Nat) :
    outcome answer blocks ((Dialogue.block : Dialogue Block) >>= f) s drawn
      = outcome answer blocks (f (blocks drawn)) s (drawn + 1) := rfl

/-- The rest of a call after a record. -/
theorem outcome_log (entry : Log.Record) (f : Unit → Call α) (s : σ) (drawn : Nat) :
    outcome answer blocks ((Dialogue.log entry : Dialogue Unit) >>= f) s drawn
      = (outcome answer blocks (f ()) s drawn).after [entry] := rfl

/-- A failure is recorded. -/
theorem outcome_logged (event publicId name : String) (call : Call α) (s : σ) (drawn : Nat) :
    outcome answer blocks (logged event publicId name call) s drawn =
      match (outcome answer blocks call s drawn).value with
      | .ok _ => outcome answer blocks call s drawn
      | .error e =>
        { outcome answer blocks call s drawn with
          log := (outcome answer blocks call s drawn).log ++ [failureRecord event publicId name e] } := by
  show Dialogue.run answer blocks (ExceptT.run call >>= _) s drawn = _
  rw [Dialogue.run_bind]
  unfold outcome
  generalize Dialogue.run answer blocks (ExceptT.run call) s drawn = o
  obtain ⟨v, s', log, draws⟩ := o
  cases v with
  | ok a =>
    show Outcome.mk _ _ (log ++ []) _ = _
    rw [List.append_nil]
    rfl
  | error e => rfl

end Outcome

/-! ## §2. Two runs. -/

/-- **Two outcomes side by side**: related values and states, equal logs, equally many draws. -/
structure Paired (E : ServiceError → σ → ServiceError → τ → Prop) (V : α → σ → β → τ → Prop)
    (o : Outcome (Except ServiceError α) σ) (o' : Outcome (Except ServiceError β) τ) : Prop where
  value : Namebook.Paired (fun e e' => E e o.state e' o'.state) (fun a b => V a o.state b o'.state)
    o.value o'.value
  log : o.log = o'.log
  draws : o.draws = o'.draws

variable {E : ServiceError → σ → ServiceError → τ → Prop} {V : α → σ → β → τ → Prop}
  {W : α' → σ → β' → τ → Prop}

/-- Equal records before them do not set outcomes apart. -/
theorem Paired.after {o : Outcome (Except ServiceError α) σ} {o' : Outcome (Except ServiceError β) τ}
    (h : Paired E V o o') (log : List Log.Record) : Paired E V (o.after log) (o'.after log) where
  value := h.value
  log := congrArg (log ++ ·) h.log
  draws := h.draws

theorem Paired.mono {V' : α → σ → β → τ → Prop} {o : Outcome (Except ServiceError α) σ}
    {o' : Outcome (Except ServiceError β) τ} (h : Paired E V o o')
    (hV : ∀ a s b s', V a s b s' → V' a s b s') : Paired E V' o o' where
  value := h.value.mono (fun _ _ he => he) fun a b => hV a _ b _
  log := h.log
  draws := h.draws

variable {answer : (r : Request) → σ → r.Answer × σ} {answer' : (r : Request) → τ → r.Answer × τ}
  {blocks blocks' : Nat → Block} {s : σ} {s' : τ} {drawn : Nat}

theorem paired_pure {a : α} {b : β} (h : V a s b s') :
    Paired E V (outcome answer blocks (pure a) s drawn) (outcome answer' blocks' (pure b) s' drawn) :=
  ⟨h, rfl, rfl⟩

theorem paired_throw {e e' : ServiceError} (h : E e s e' s') :
    Paired E V (outcome answer blocks (throw e : Call α) s drawn)
      (outcome answer' blocks' (throw e' : Call β) s' drawn) :=
  ⟨h, rfl, rfl⟩

theorem paired_answer {v : Except ServiceError α} {v' : Except ServiceError β}
    (h : Namebook.Paired (fun e e' => E e s e' s') (fun a b => V a s b s') v v') :
    Paired E V (outcome answer blocks (ExceptT.mk (pure v)) s drawn)
      (outcome answer' blocks' (ExceptT.mk (pure v')) s' drawn) :=
  ⟨h, rfl, rfl⟩

/-- **Both calls go on, or both end.** -/
theorem paired_bind {x : Call α} {y : Call β} {f : α → Call α'} {g : β → Call β'}
    (hx : Paired E V (outcome answer blocks x s drawn) (outcome answer' blocks' y s' drawn))
    (hf : ∀ a b s s' drawn, V a s b s' →
      Paired E W (outcome answer blocks (f a) s drawn) (outcome answer' blocks' (g b) s' drawn)) :
    Paired E W (outcome answer blocks (x >>= f) s drawn)
      (outcome answer' blocks' (y >>= g) s' drawn) := by
  rw [outcome_bind, outcome_bind]
  generalize outcome answer blocks x s drawn = o, outcome answer' blocks' y s' drawn = o' at hx
  obtain ⟨v, t, log, draws⟩ := o
  obtain ⟨v', t', log', draws'⟩ := o'
  obtain ⟨hvalue, hlog, hdraws⟩ := hx
  dsimp only at hvalue hlog hdraws ⊢
  subst hlog hdraws
  rcases hvalue.cases with ⟨e, e', rfl, rfl, he⟩ | ⟨a, b, rfl, rfl, hab⟩
  · exact ⟨he, rfl, rfl⟩
  · exact (hf a b t t' draws hab).after log

/-- A test with the same outcome on both sides. -/
theorem paired_ite {p p' : Prop} [Decidable p] [Decidable p'] {x y : Call α} {x' y' : Call β}
    (hp : p ↔ p')
    (hthen : p → Paired E V (outcome answer blocks x s drawn) (outcome answer' blocks' x' s' drawn))
    (helse : ¬p → Paired E V (outcome answer blocks y s drawn)
      (outcome answer' blocks' y' s' drawn)) :
    Paired E V (outcome answer blocks (if p then x else y) s drawn)
      (outcome answer' blocks' (if p' then x' else y') s' drawn) := by
  by_cases h : p
  · rw [if_pos h, if_pos (hp.1 h)]
    exact hthen h
  · rw [if_neg h, if_neg fun h' => h (hp.2 h')]
    exact helse h

/-- What follows a failure does not count. -/
theorem paired_throw_bind {e e' : ServiceError} {f : α' → Call α} {g : β' → Call β}
    (h : E e s e' s') :
    Paired E V (outcome answer blocks ((throw e : Call α') >>= f) s drawn)
      (outcome answer' blocks' ((throw e' : Call β') >>= g) s' drawn) :=
  paired_bind (V := fun _ _ _ _ => False) (paired_throw h) fun _ _ _ _ _ h => absurd h id

/-- A request whose refusal ends the call. -/
theorem paired_ofAnswer {r r' : Request} {V : r.Found → σ → r'.Found → τ → Prop}
    (h : Namebook.Paired
      (fun e e' => E (.ofRepository e) (answer r s).2 (.ofRepository e') (answer' r' s').2)
      (fun a b => V a (answer r s).2 b (answer' r' s').2) (answer r s).1 (answer' r' s').1) :
    Paired E V (outcome answer blocks (ofAnswer (Dialogue.request r)) s drawn)
      (outcome answer' blocks' (ofAnswer (Dialogue.request r')) s' drawn) := by
  exact ⟨paired_mapError h, rfl, rfl⟩

/-- Failures that are recorded alike. -/
theorem paired_logged {event publicId name name' : String} {x : Call α} {y : Call β}
    (hx : Paired E V (outcome answer blocks x s drawn) (outcome answer' blocks' y s' drawn))
    (hE : ∀ e s e' s', E e s e' s' →
      failureRecord event publicId name e = failureRecord event publicId name' e') :
    Paired E V (outcome answer blocks (logged event publicId name x) s drawn)
      (outcome answer' blocks' (logged event publicId name' y) s' drawn) := by
  rw [outcome_logged, outcome_logged]
  generalize outcome answer blocks x s drawn = o, outcome answer' blocks' y s' drawn = o' at hx
  obtain ⟨v, t, log, draws⟩ := o
  obtain ⟨v', t', log', draws'⟩ := o'
  obtain ⟨hvalue, hlog, hdraws⟩ := hx
  dsimp only at hvalue hlog hdraws ⊢
  subst hlog hdraws
  rcases hvalue.cases with ⟨e, e', rfl, rfl, he⟩ | ⟨a, b, rfl, rfl, hab⟩
  · dsimp only
    rw [hE e t e' t' he]
    exact ⟨he, rfl, rfl⟩
  · exact ⟨hab, rfl, rfl⟩

/-- Failures that are recorded alike on the spot. -/
theorem paired_fail {event publicId name name' : String} {e e' : ServiceError} (h : E e s e' s')
    (hrecord : failureRecord event publicId name e = failureRecord event publicId name' e') :
    Paired E V (outcome answer blocks (fail event publicId name e : Call α) s drawn)
      (outcome answer' blocks' (fail event publicId name' e' : Call β) s' drawn) := by
  unfold fail
  rw [outcome_log, outcome_log, hrecord]
  exact (paired_throw h).after _

/-- Successes that are recorded alike. -/
theorem paired_report {x : Call α} {y : Call β} {entry : α → Log.Record} {entry' : β → Log.Record}
    (hx : Paired E V (outcome answer blocks x s drawn) (outcome answer' blocks' y s' drawn))
    (hentry : ∀ a s b s', V a s b s' → entry a = entry' b) :
    Paired E V
      (outcome answer blocks (do
        let a ← x
        (Dialogue.log (entry a) : Dialogue Unit)
        return a) s drawn)
      (outcome answer' blocks' (do
        let b ← y
        (Dialogue.log (entry' b) : Dialogue Unit)
        return b) s' drawn) := by
  refine paired_bind hx fun a b t t' k hV => ?_
  rw [outcome_log, outcome_log, hentry a t b t' hV]
  exact (paired_pure hV).after _

end Call

end Namebook
