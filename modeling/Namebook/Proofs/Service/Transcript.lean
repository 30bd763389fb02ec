/-
  Namebook.Proofs.Service.Transcript
  ──────────────────────────────────
  **WHAT A SERVICE CAN SAY — transcripts of dialogues, whoever answers.**

  A transcript lists what was asked with its answer, what was drawn and what was logged.
  `Dialogue.Ends d Q` says that every way in which `d` can go, whatever the answers are, has a
  transcript and a value in `Q`; it is computed along the dialogue, so that the rules `ends_…` take
  a call apart at its seams.

  `Dialogue.transcript` brings it back to a run: the transcript of a run is in `Q`, its answers are
  those that were given, in that order, and its records are the log.
-/
import Namebook.Proofs.Repository.Transaction
import Namebook.Service.AliasService
import Namebook.Service.DocumentService

namespace Namebook

/-! ## §1. Transcripts. -/

/-- One step of a dialogue. -/
inductive Exchange where
  | asked (r : Request) (a : r.Answer)
  | drew (b : Block)
  | wrote (entry : Log.Record)

namespace Exchange

/-- Whether a request was a change and was granted. -/
def changed : Exchange → Bool
  | asked r (.ok _) => r.isChange
  | _ => false

/-- The record that was written. -/
def record? : Exchange → Option Log.Record
  | wrote entry => some entry
  | _ => none

end Exchange

namespace Dialogue

variable {α β σ : Type}

/-- **Every way to the end has a transcript and a value in `Q`.** -/
def Ends : Dialogue α → (List Exchange → α → Prop) → Prop
  | done a, Q => Q [] a
  | ask r next, Q => ∀ a, (next a).Ends fun es v => Q (.asked r a :: es) v
  | draw next, Q => ∀ b, (next b).Ends fun es v => Q (.drew b :: es) v
  | record entry next, Q => next.Ends fun es v => Q (.wrote entry :: es) v

theorem Ends.mono {d : Dialogue α} {Q Q' : List Exchange → α → Prop} (h : d.Ends Q)
    (hQ : ∀ es v, Q es v → Q' es v) : d.Ends Q' := by
  induction d generalizing Q Q' with
  | done a => exact hQ [] a h
  | ask r next ih => exact fun a => ih a (h a) fun es v => hQ (.asked r a :: es) v
  | draw next ih => exact fun b => ih b (h b) fun es v => hQ (.drew b :: es) v
  | record entry next ih => exact ih h fun es v => hQ (.wrote entry :: es) v

theorem ends_of_forall {Q : List Exchange → α → Prop} (h : ∀ es v, Q es v) (d : Dialogue α) :
    d.Ends Q := by
  induction d generalizing Q with
  | done a => exact h [] a
  | ask r next ih => exact fun a => ih a fun es v => h (.asked r a :: es) v
  | draw next ih => exact fun b => ih b fun es v => h (.drew b :: es) v
  | record entry next ih => exact ih fun es v => h (.wrote entry :: es) v

theorem ends_congr {d : Dialogue α} {Q Q' : List Exchange → α → Prop}
    (h : ∀ es v, Q es v ↔ Q' es v) : d.Ends Q ↔ d.Ends Q' :=
  ⟨fun hd => hd.mono fun es v => (h es v).1, fun hd => hd.mono fun es v => (h es v).2⟩

theorem ends_and {d : Dialogue α} {Q Q' : List Exchange → α → Prop} (h : d.Ends Q)
    (h' : d.Ends Q') : d.Ends fun es v => Q es v ∧ Q' es v := by
  induction d generalizing Q Q' with
  | done a => exact ⟨h, h'⟩
  | ask r next ih => exact fun a => ih a (h a) (h' a)
  | draw next ih => exact fun b => ih b (h b) (h' b)
  | record entry next ih => exact ih h h'

/-- Two dialogues in a row: the transcripts follow each other. -/
theorem ends_bind {d : Dialogue α} {f : α → Dialogue β} {Q : List Exchange → β → Prop} :
    (d >>= f).Ends Q ↔ d.Ends fun es a => (f a).Ends fun es' b => Q (es ++ es') b := by
  show (d.bind f).Ends Q ↔ _
  induction d generalizing Q with
  | done a => rfl
  | ask r next ih => exact forall_congr' fun a => ih a
  | draw next ih => exact forall_congr' fun b => ih b
  | record entry next ih => exact ih

/-- The answers of a transcript are those that `answer` gives, one after the other, and take it from
the one state to the other. -/
inductive Answered (answer : (r : Request) → σ → r.Answer × σ) : σ → List Exchange → σ → Prop where
  | nil (s : σ) : Answered answer s [] s
  | asked (r : Request) {s s' : σ} {es : List Exchange} :
      Answered answer (answer r s).2 es s' → Answered answer s (.asked r (answer r s).1 :: es) s'
  | drew (b : Block) {s s' : σ} {es : List Exchange} :
      Answered answer s es s' → Answered answer s (.drew b :: es) s'
  | wrote (entry : Log.Record) {s s' : σ} {es : List Exchange} :
      Answered answer s es s' → Answered answer s (.wrote entry :: es) s'

/-- The answers of a transcript in two parts. -/
theorem answered_append {answer : (r : Request) → σ → r.Answer × σ} {s s' : σ}
    {es es' : List Exchange} (h : Answered answer s (es ++ es') s') :
    ∃ mid, Answered answer s es mid ∧ Answered answer mid es' s' := by
  induction es generalizing s with
  | nil => exact ⟨s, .nil s, h⟩
  | cons e es ih =>
    cases h with
    | asked r h =>
      obtain ⟨mid, h, h'⟩ := ih h
      exact ⟨mid, .asked r h, h'⟩
    | drew b h =>
      obtain ⟨mid, h, h'⟩ := ih h
      exact ⟨mid, .drew b h, h'⟩
    | wrote entry h =>
      obtain ⟨mid, h, h'⟩ := ih h
      exact ⟨mid, .wrote entry h, h'⟩

/-- **The transcript of a run.** -/
def transcript (answer : (r : Request) → σ → r.Answer × σ) (blocks : Nat → Block) :
    Dialogue α → σ → Nat → List Exchange
  | done _, _, _ => []
  | ask r next, s, drawn =>
    let (a, s') := answer r s
    .asked r a :: (next a).transcript answer blocks s' drawn
  | draw next, s, drawn =>
    .drew (blocks drawn) :: (next (blocks drawn)).transcript answer blocks s (drawn + 1)
  | record entry next, s, drawn => .wrote entry :: next.transcript answer blocks s drawn

section

variable {d : Dialogue α} (answer : (r : Request) → σ → r.Answer × σ) (blocks : Nat → Block) (s : σ)
  (drawn : Nat)

/-- A run is one way to the end. -/
theorem ends_transcript {Q : List Exchange → α → Prop} (h : d.Ends Q) :
    Q (d.transcript answer blocks s drawn) (d.run answer blocks s drawn).value := by
  induction d generalizing Q s drawn with
  | done a => exact h
  | ask r next ih => exact ih (answer r s).1 (answer r s).2 drawn (h _)
  | draw next ih => exact ih (blocks drawn) s (drawn + 1) (h _)
  | record entry next ih => exact ih s drawn h

theorem answered_transcript : Answered answer s (d.transcript answer blocks s drawn)
    (d.run answer blocks s drawn).state := by
  induction d generalizing s drawn with
  | done a => exact .nil s
  | ask r next ih => exact .asked r (ih (answer r s).1 (answer r s).2 drawn)
  | draw next ih => exact .drew _ (ih (blocks drawn) s (drawn + 1))
  | record entry next ih => exact .wrote entry (ih s drawn)

/-- The log of a run is what it has written. -/
theorem log_run : (d.run answer blocks s drawn).log
    = (d.transcript answer blocks s drawn).filterMap Exchange.record? := by
  induction d generalizing s drawn with
  | done a => rfl
  | ask r next ih => exact ih (answer r s).1 (answer r s).2 drawn
  | draw next ih => exact ih (blocks drawn) s (drawn + 1)
  | record entry next ih => exact congrArg (entry :: ·) (ih s drawn)

end

/-- **A run has a transcript**: its value and its state are those of some way to the end. -/
theorem run_ends {d : Dialogue α} {Q : List Exchange → α → Prop} (h : d.Ends Q)
    (answer : (r : Request) → σ → r.Answer × σ) (blocks : Nat → Block) (s : σ) (drawn : Nat) :
    ∃ es, Q es (d.run answer blocks s drawn).value ∧
      Answered answer s es (d.run answer blocks s drawn).state :=
  ⟨_, ends_transcript answer blocks s drawn h, answered_transcript answer blocks s drawn⟩

end Dialogue

/-! ## §2. Calls. -/

namespace Call

variable {α β : Type}

/-- Every way to the end of a call, with its answer. -/
def Ends (call : Call α) (Q : List Exchange → Except ServiceError α → Prop) : Prop :=
  Dialogue.Ends (ExceptT.run call) Q

variable {Q : List Exchange → Except ServiceError α → Prop}

theorem Ends.mono {call : Call α} {Q' : List Exchange → Except ServiceError α → Prop}
    (h : call.Ends Q) (hQ : ∀ es v, Q es v → Q' es v) : call.Ends Q' :=
  Dialogue.Ends.mono h hQ

theorem ends_of_forall {call : Call α} (h : ∀ es v, Q es v) : call.Ends Q :=
  Dialogue.ends_of_forall h _

theorem ends_and {call : Call α} {Q' : List Exchange → Except ServiceError α → Prop}
    (h : call.Ends Q) (h' : call.Ends Q') : call.Ends fun es v => Q es v ∧ Q' es v :=
  Dialogue.ends_and h h'

theorem ends_pure {a : α} : Ends (pure a) Q ↔ Q [] (.ok a) := Iff.rfl

theorem ends_throw {e : ServiceError} : Ends (throw e : Call α) Q ↔ Q [] (.error e) := Iff.rfl

theorem ends_answer {v : Except ServiceError α} : Ends (ExceptT.mk (pure v)) Q ↔ Q [] v := Iff.rfl

/-- A call in two parts stops where its first part fails. -/
theorem ends_bind {x : Call β} {f : β → Call α} :
    Ends (x >>= f) Q ↔ x.Ends fun es v =>
      match v with
      | .ok b => (f b).Ends fun es' w => Q (es ++ es') w
      | .error e => Q es (.error e) := by
  show Dialogue.Ends (ExceptT.run x >>= _) Q ↔ _
  rw [Dialogue.ends_bind]
  refine Dialogue.ends_congr fun es v => ?_
  cases v with
  | ok b => rfl
  | error e =>
    -- the rest is never reached
    show Q (es ++ []) (.error e) ↔ Q es (.error e)
    rw [List.append_nil]

/-- A handler takes over where a call fails. -/
theorem ends_tryCatch {x : Call α} {handle : ServiceError → Call α} :
    Ends (tryCatch x handle) Q ↔ x.Ends fun es v =>
      match v with
      | .ok a => Q es (.ok a)
      | .error e => (handle e).Ends fun es' w => Q (es ++ es') w := by
  show Dialogue.Ends (ExceptT.run x >>= _) Q ↔ _
  rw [Dialogue.ends_bind]
  refine Dialogue.ends_congr fun es v => ?_
  cases v with
  | ok a =>
    show Q (es ++ []) (.ok a) ↔ Q es (.ok a)
    rw [List.append_nil]
  | error e => rfl

theorem ends_request {r : Request} {Q : List Exchange → Except ServiceError r.Answer → Prop} :
    Ends (Dialogue.request r : Dialogue r.Answer) Q ↔ ∀ a, Q [.asked r a] (.ok a) := Iff.rfl

theorem ends_block {Q : List Exchange → Except ServiceError Block → Prop} :
    Ends (Dialogue.block : Dialogue Block) Q ↔ ∀ b, Q [.drew b] (.ok b) := Iff.rfl

/-- A request whose refusal ends the call. -/
theorem ends_ofAnswer {r : Request} {Q : List Exchange → Except ServiceError r.Found → Prop} :
    Ends (ofAnswer (Dialogue.request r)) Q ↔
      ∀ a : r.Answer, Q [.asked r a] (a.mapError ServiceError.ofRepository) := Iff.rfl

theorem ends_log {entry : Log.Record} {Q : List Exchange → Except ServiceError Unit → Prop} :
    Ends (Dialogue.log entry : Dialogue Unit) Q ↔ Q [.wrote entry] (.ok ()) := Iff.rfl

theorem ends_fail {event publicId name : String} {e : ServiceError} :
    (fail event publicId name e : Call α).Ends Q ↔
      Q [.wrote (failureRecord event publicId name e)] (.error e) := by
  unfold fail
  rw [ends_bind, ends_log]
  rfl

end Call

end Namebook
