/-
  Namebook.Proofs.Service.Settled
  ───────────────────────────────
  **A CALL CHANGES THE STORE ONCE OR NOT AT ALL.**

  Whatever the repositories answer, a service call that fails was granted no change and one that
  succeeds was granted one at most; after it nothing is asked any more.  `Settled` says so of a
  transcript, `settled_…` of each of the six calls.
-/
import Namebook.Proofs.Service.Steps

namespace Namebook

namespace Call

variable {α β : Type}

/-! ## §1. Three kinds of transcripts. -/

/-- No change was granted. -/
def Quiet (es : List Exchange) (_ : Except ServiceError α) : Prop :=
  es.countP Exchange.changed = 0

/-- **A success goes with one granted change at most, a failure with none.** -/
def Settled (es : List Exchange) : Except ServiceError α → Prop
  | .ok _ => es.countP Exchange.changed ≤ 1
  | .error _ => es.countP Exchange.changed = 0

/-- A success, and no change granted on the way. -/
def Harmless (es : List Exchange) : Except ServiceError α → Prop
  | .ok _ => es.countP Exchange.changed = 0
  | .error _ => False

/-- A failure, and no change granted on the way. -/
def Failing (es : List Exchange) : Except ServiceError α → Prop
  | .ok _ => False
  | .error _ => es.countP Exchange.changed = 0

/-- Nothing was granted if no step was a granted change. -/
theorem quiet_of_each {call : Call α} (h : call.Ends (Each fun x => ¬x.changed = true)) :
    call.Ends Quiet :=
  h.mono fun _ _ => List.countP_eq_zero.2

theorem settled_of_quiet {call : Call α} (h : call.Ends Quiet) : call.Ends Settled := by
  refine h.mono fun es v hes => ?_
  unfold Quiet at hes
  cases v with
  | ok a => show _ ≤ 1; omega
  | error e => exact hes

theorem quiet_of_failing {call : Call α} (h : call.Ends Failing) : call.Ends Quiet := by
  refine h.mono fun es v hes => ?_
  cases v with
  | ok a => exact absurd hes id
  | error e => exact hes

/-! ## §2. How they compose. -/

/-- First look, then act. -/
theorem settled_bind {x : Call β} {f : β → Call α} (hx : x.Ends Quiet)
    (hf : ∀ b, (f b).Ends Settled) : (x >>= f).Ends Settled := by
  rw [ends_bind]
  refine hx.mono fun es v hes => ?_
  unfold Quiet at hes
  cases v with
  | error e => exact hes
  | ok b =>
    refine (hf b).mono fun es' w hes' => ?_
    cases w with
    | ok a =>
      unfold Settled at hes' ⊢
      rw [List.countP_append, hes]
      omega
    | error e =>
      unfold Settled at hes' ⊢
      rw [List.countP_append, hes, hes']

/-- First act, then do what cannot fail any more. -/
theorem settled_bind_harmless {x : Call β} {f : β → Call α} (hx : x.Ends Settled)
    (hf : ∀ b, (f b).Ends Harmless) : (x >>= f).Ends Settled := by
  rw [ends_bind]
  refine hx.mono fun es v hes => ?_
  cases v with
  | error e => exact hes
  | ok b =>
    refine (hf b).mono fun es' w hes' => ?_
    cases w with
    | error e => exact absurd hes' id
    | ok a =>
      unfold Settled Harmless at *
      rw [List.countP_append, hes']
      exact hes

theorem settled_tryCatch {x : Call α} {handle : ServiceError → Call α} (hx : x.Ends Settled)
    (hhandle : ∀ e, (handle e).Ends Failing) : Call.Ends (tryCatch x handle) Settled := by
  rw [ends_tryCatch]
  refine hx.mono fun es v hes => ?_
  cases v with
  | ok a => exact hes
  | error e =>
    refine (hhandle e).mono fun es' w hes' => ?_
    cases w with
    | ok a => exact absurd hes' id
    | error e' =>
      unfold Settled Failing at *
      rw [List.countP_append, hes, hes']

/-! ## §3. The building blocks of the calls. -/

theorem failing_throw (e : ServiceError) : Ends (throw e : Call α) Failing :=
  ends_throw.2 rfl

theorem failing_fail (event publicId name : String) (e : ServiceError) :
    (fail event publicId name e : Call α).Ends Failing :=
  ends_fail.2 rfl

theorem settled_logged {event publicId name : String} {call : Call α} (h : call.Ends Settled) :
    (logged event publicId name call).Ends Settled :=
  settled_tryCatch h (failing_fail event publicId name)

theorem quiet_pure (a : α) : Ends (pure a : Call α) Quiet :=
  ends_pure.2 rfl

theorem quiet_throw (e : ServiceError) : Ends (throw e : Call α) Quiet :=
  quiet_of_failing (failing_throw e)

theorem quiet_log (entry : Log.Record) : Ends (Dialogue.log entry : Dialogue Unit) Quiet :=
  ends_log.2 rfl

/-- A success that is logged. -/
theorem harmless_report (entry : Log.Record) (a : α) :
    Call.Ends (do (Dialogue.log entry : Dialogue Unit); return a) Harmless := by
  rw [ends_bind, ends_log]
  exact rfl

theorem changed_asked {r : Request} {a : r.Answer} (h : r.isChange = false) :
    Exchange.changed (.asked r a) = false := by
  cases a with
  | ok v => exact h
  | error e => rfl

theorem not_changed_asked {r : Request} (h : r.isChange = false) (a : r.Answer) :
    ¬Exchange.changed (.asked r a) = true := by
  rw [changed_asked h]
  exact Bool.false_ne_true

/-- A look-up grants no change. -/
theorem each_lookup {r : Request} (h : r.isChange = false) :
    Ends (ofAnswer (Dialogue.request r)) (Each fun x => ¬x.changed = true) :=
  each_ofAnswer (not_changed_asked h)

theorem quiet_lookup {r : Request} (h : r.isChange = false) :
    Ends (ofAnswer (Dialogue.request r)) Quiet :=
  quiet_of_each (each_lookup h)

/-- A change grants one change or fails. -/
theorem settled_change (r : Request) : Ends (ofAnswer (Dialogue.request r)) Settled := by
  rw [ends_ofAnswer]
  intro a
  cases a with
  | ok v =>
    show List.countP Exchange.changed [.asked r (.ok v)] ≤ 1
    exact List.countP_le_length
  | error e => exact rfl

/-- Asking for a change and going on without a further one if it is refused. -/
theorem settled_request {r : Request} {f : r.Answer → Call α}
    (hok : ∀ v, (f (.ok v)).Ends Harmless) (herror : ∀ e, (f (.error e)).Ends Settled) :
    Ends ((Dialogue.request r : Dialogue r.Answer) >>= f) Settled := by
  rw [ends_bind, ends_request]
  intro a
  cases a with
  | ok v =>
    -- the one granted change is this one
    refine (hok v).mono fun es w hes => ?_
    cases w with
    | error e => exact absurd hes id
    | ok b =>
      unfold Settled Harmless at *
      rw [List.countP_append, hes]
      exact List.countP_le_length
  | error e =>
    -- a refused change does not count, so the rest may still be granted one
    refine (herror e).mono fun es w hes => ?_
    cases w with
    | ok b =>
      unfold Settled at *
      rw [List.countP_append]
      simpa [Exchange.changed] using hes
    | error e' =>
      unfold Settled at *
      rw [List.countP_append, hes]
      rfl

end Call

/-! ## §4. The six calls. -/

namespace AliasService

open Call

theorem quiet_checkNew (reserved : ReservedNames) (name : String) :
    (checkNew reserved name).Ends Quiet := by
  rw [checkNew_eq]
  exact quiet_of_each (each_checked (each_lookup rfl) (each_lookup rfl))

theorem quiet_claimFailure (name : String) (e : RepositoryError) :
    (claimFailure name e).Ends Quiet :=
  quiet_of_each (each_claimFailure (not_changed_asked rfl) e)

theorem settled_create (publicId name : String) : (create publicId name).Ends Settled := by
  unfold create
  refine settled_request (fun d => ends_pure.2 rfl) fun e => ?_
  exact settled_of_quiet (quiet_claimFailure name e)

theorem settled_add (reserved : ReservedNames) (publicId name : String) :
    (add reserved publicId name).Ends Settled := by
  unfold add
  refine settled_logged (settled_bind (quiet_checkNew reserved name) fun _ => ?_)
  exact settled_bind_harmless (settled_create publicId name) fun d => harmless_report _ d

theorem settled_remove (publicId name : String) : (remove publicId name).Ends Settled := by
  unfold remove
  exact settled_logged (settled_bind_harmless (settled_change _) fun d => harmless_report _ d)

/-- A promotion that is granted ends the attempts. -/
theorem settled_tryPromote {publicId name : String} {onBusy : RepositoryError → Call Document}
    (h : ∀ e, (onBusy e).Ends Settled) : (tryPromote publicId name onBusy).Ends Settled := by
  unfold tryPromote
  refine settled_request (fun d => ends_pure.2 rfl) fun e => ?_
  show Call.Ends (if e.isBusy = true then onBusy e else throw (ServiceError.ofRepository e)) Settled
  split
  · exact h e
  · exact settled_of_quiet (quiet_throw _)

theorem settled_promoteFrom (publicId name : String) (attempt left : Nat) :
    (promoteFrom publicId name attempt left).Ends Settled := by
  induction left generalizing attempt with
  | zero => exact settled_tryPromote fun e => settled_of_quiet (quiet_throw _)
  | succ left ih =>
    exact settled_tryPromote fun e => settled_bind (quiet_log _) fun _ => ih (attempt + 1)

theorem settled_promote (publicId name : String) : (promote publicId name).Ends Settled := by
  unfold promote
  refine settled_logged (settled_bind_harmless (settled_promoteFrom publicId name 1 _) fun d => ?_)
  exact harmless_report _ d

theorem settled_view (publicId name : String) : (view publicId name).Ends Settled := by
  unfold view
  refine settled_logged (settled_bind (quiet_lookup rfl) fun found => ?_)
  split
  · exact settled_of_quiet (quiet_pure _)
  · exact settled_of_quiet (quiet_throw _)

end AliasService

namespace DocumentService

open Call

theorem settled_resolve (name : String) : (resolve name).Ends Settled := by
  unfold resolve
  refine settled_logged (settled_bind (quiet_lookup rfl) fun found => ?_)
  split
  · exact settled_of_quiet (quiet_pure _)
  · refine settled_bind (quiet_lookup rfl) fun found => ?_
    split
    · exact settled_of_quiet (quiet_pure _)
    · exact settled_of_quiet (quiet_throw _)

/-- A rejected initial alias is logged, which grants no change. -/
theorem quiet_loggedInitial (reserved : ReservedNames) (name : String) :
    (logged createEvent "-" name (checkInitial reserved name)).Ends Quiet := by
  rw [checkInitial_eq]
  refine quiet_of_each (each_logged (each_checked (each_lookup rfl) (each_lookup rfl)) ?_)
  exact fun _ => Bool.false_ne_true

theorem settled_fail (event publicId name : String) (e : ServiceError) :
    (fail event publicId name e : Call Document).Ends Settled :=
  settled_of_quiet (quiet_of_failing (failing_fail event publicId name e))

theorem settled_takenMeanwhile (publicId name : String) :
    (takenMeanwhile publicId name).Ends Settled := by
  unfold takenMeanwhile
  exact settled_bind (quiet_lookup rfl) fun found => settled_fail _ _ _ _

/-- A draw that finds its id taken was refused, so the next draw starts afresh. -/
theorem settled_createFrom (initial : Option String) (attempt left : Nat) :
    (createFrom initial attempt left).Ends Settled := by
  induction left generalizing attempt with
  | zero => exact settled_fail _ _ _ _
  | succ left ih =>
    unfold createFrom
    refine settled_bind (ends_block.2 fun b => rfl) fun block => ?_
    -- the steps after the draw are the same for every id
    generalize PublicId.encode block = publicId
    refine settled_request (fun d => harmless_report _ d) fun e => ?_
    cases e with
    | nameTaken name =>
      show Call.Ends (if name = publicId then _ else _) Settled
      split
      · exact settled_bind (quiet_log _) fun _ => ih (attempt + 1)
      · exact settled_takenMeanwhile _ _
    | _ => exact settled_fail _ _ _ _

theorem settled_create (reserved : ReservedNames) (initial : Option String) :
    (create reserved initial).Ends Settled := by
  unfold create
  cases initial with
  | none => exact settled_createFrom none 1 createAttempts
  | some name =>
    show Call.Ends (logged createEvent "-" name (checkInitial reserved name) >>= _) Settled
    refine settled_bind (quiet_loggedInitial reserved name) fun _ => ?_
    exact settled_createFrom (some name) 1 createAttempts

end DocumentService

end Namebook
