/-
  Namebook.Proofs.Service.Steps
  ─────────────────────────────
  **WHAT HOLDS OF EVERY STEP OF A CALL.**

  Which requests are made, which changes are granted, what is recorded: what is said of single steps is
  put together from the parts of a call in one way, whatever it is.

    • `Call.Each`, `Call.Passed` — of every step, and of every success; their rules `each_…`, `passed_…`;
    • `Call.checked` — the check of a name, whichever service makes it;
    • `each_claimFailure`, `each_promoteFrom` — the parts of calls that choose between ways to go on.
-/
import Namebook.Proofs.Service.Transcript

namespace Namebook

namespace Call

variable {α β : Type} {P : Exchange → Prop} {R : β → Prop}

/-! ## §1. Steps and successes. -/

/-- Every step satisfies `P`. -/
def Each (P : Exchange → Prop) (es : List Exchange) (_ : Except ServiceError α) : Prop :=
  ∀ x ∈ es, P x

/-- Every success satisfies `R`. -/
def Passed (R : α → Prop) (_ : List Exchange) (v : Except ServiceError α) : Prop :=
  ∀ a, v = .ok a → R a

theorem each_nil (v : Except ServiceError α) : Each P [] v := List.forall_mem_nil _

theorem each_single {x : Exchange} (h : P x) (v : Except ServiceError α) : Each P [x] v :=
  List.forall_mem_singleton.2 h

theorem Each.append {es es' : List Exchange} {v : Except ServiceError β} {w : Except ServiceError α}
    (h : Each P es v) (h' : Each P es' w) : Each P (es ++ es') w :=
  List.forall_mem_append.2 ⟨h, h'⟩

/-! ## §2. How they compose. -/

/-- The second part may rely on what a success of the first one shows. -/
theorem each_bind_of_passed {x : Call β} {f : β → Call α} (hx : x.Ends (Each P))
    (hpassed : x.Ends (Passed R)) (hf : ∀ b, R b → (f b).Ends (Each P)) :
    (x >>= f).Ends (Each P) := by
  rw [ends_bind]
  refine (ends_and hx hpassed).mono fun es v hes => ?_
  cases v with
  | error e => exact hes.1
  | ok b => exact (hf b (hes.2 b rfl)).mono fun es' w hes' => hes.1.append hes'

theorem each_bind {x : Call β} {f : β → Call α} (hx : x.Ends (Each P))
    (hf : ∀ b, (f b).Ends (Each P)) : (x >>= f).Ends (Each P) :=
  each_bind_of_passed (R := fun _ => True) hx (hx.mono fun _ _ _ _ _ => trivial) fun b _ => hf b

theorem each_answer (v : Except ServiceError α) : Ends (ExceptT.mk (pure v)) (Each P) :=
  ends_answer.2 (each_nil v)

theorem each_pure (a : α) : Ends (pure a : Call α) (Each P) := each_answer (.ok a)

theorem each_throw (e : ServiceError) : Ends (throw e : Call α) (Each P) := each_answer (.error e)

theorem each_log {entry : Log.Record} (h : P (.wrote entry)) :
    Ends (Dialogue.log entry : Dialogue Unit) (Each P) :=
  ends_log.2 (each_single h _)

theorem each_block (h : ∀ b, P (.drew b)) : Ends (Dialogue.block : Dialogue Block) (Each P) :=
  ends_block.2 fun b => each_single (h b) _

theorem each_request {r : Request} (h : ∀ a, P (.asked r a)) :
    Ends (Dialogue.request r : Dialogue r.Answer) (Each P) :=
  ends_request.2 fun a => each_single (h a) _

/-- A request whose refusal ends the call. -/
theorem each_ofAnswer {r : Request} (h : ∀ a, P (.asked r a)) :
    Ends (ofAnswer (Dialogue.request r)) (Each P) :=
  ends_ofAnswer.2 fun a => each_single (h a) _

theorem each_fail {event publicId name : String} {e : ServiceError}
    (h : P (.wrote (failureRecord event publicId name e))) :
    (fail event publicId name e : Call α).Ends (Each P) :=
  ends_fail.2 (each_single h _)

theorem each_logged {event publicId name : String} {call : Call α} (h : call.Ends (Each P))
    (hrecord : ∀ e, P (.wrote (failureRecord event publicId name e))) :
    (logged event publicId name call).Ends (Each P) := by
  unfold logged
  rw [ends_tryCatch]
  refine h.mono fun es v hes => ?_
  cases v with
  | ok a => exact hes
  | error e => exact ends_fail.2 (hes.append (each_single (hrecord e) (.error e)))

/-- A success that is logged. -/
theorem each_report {x : Call α} {entry : α → Log.Record} (hx : x.Ends (Each P))
    (hrecord : ∀ a, P (.wrote (entry a))) :
    Call.Ends (do
      let a ← x
      (Dialogue.log (entry a) : Dialogue Unit)
      return a) (Each P) :=
  each_bind hx fun a => each_bind (each_log (hrecord a)) fun _ => each_pure a

/-- The record of a failure does not turn it into a success. -/
theorem passed_logged {event publicId name : String} {x : Call β} (h : x.Ends (Passed R)) :
    (logged event publicId name x).Ends (Passed R) := by
  unfold logged
  rw [ends_tryCatch]
  refine h.mono fun es v hv => ?_
  cases v with
  | ok b => exact hv
  | error e => exact ends_fail.2 fun b hb => by cases hb

/-! ## §3. The check of a name. -/

/-- The check of a name with its two looks. -/
def checked {α β : Type} (reserved : ReservedNames) (n : String) (first : Call (Option α))
    (second : Call (Option β)) : Call Unit := do
  ExceptT.mk (pure (checkName reserved n))
  if (← first).isSome then
    throw (.alreadyExists n .aliasName)
  if (← second).isSome then
    throw (.alreadyExists n .publicId)

theorem checkNew_eq (reserved : ReservedNames) (n : String) :
    AliasService.checkNew reserved n = checked reserved n (findAliasByName n) (findByPublicId n) :=
  rfl

theorem checkInitial_eq (reserved : ReservedNames) (n : String) :
    DocumentService.checkInitial reserved n
      = checked reserved n (findByAlias n) (findByPublicId n) := rfl

variable {reserved : ReservedNames} {n : String} {first : Call (Option α)} {second : Call (Option β)}

/-- The steps of a check are those of its looks. -/
theorem each_checked (hfirst : first.Ends (Each P)) (hsecond : second.Ends (Each P)) :
    (checked reserved n first second).Ends (Each P) := by
  have hlast : Call.Ends (second >>= fun found =>
      if found.isSome then throw (.alreadyExists n .publicId) else pure ()) (Each P) := by
    refine each_bind hsecond fun found => ?_
    split
    · exact each_throw _
    · exact each_pure _
  unfold checked
  refine each_bind (each_answer _) fun _ => each_bind hfirst fun found => ?_
  split
  · exact each_bind (each_throw _) fun _ => hlast
  · exact hlast

/-- A check is passed by fit names only. -/
theorem passed_checked : (checked reserved n first second).Ends
    (Passed fun _ => checkName reserved n = .ok ()) := by
  unfold checked
  rw [ends_bind, ends_answer]
  cases hname : checkName reserved n with
  | error e => exact fun _ h => by cases h
  | ok u => exact ends_of_forall fun _ _ _ _ => rfl

end Call

/-! ## §4. Parts of calls. -/

open Call

variable {P : Exchange → Prop}

namespace AliasService

variable {p n : String}

theorem each_claimFailure (h : ∀ a, P (.asked (.findAliasByName n) a)) (e : RepositoryError) :
    (claimFailure n e).Ends (Each P) := by
  unfold claimFailure
  split
  · refine each_bind (each_ofAnswer h) fun found => ?_
    split
    · exact each_throw _
    · exact each_throw _
  · exact each_throw _

theorem each_create (hask : ∀ a, P (.asked (.createAlias p n) a))
    (hlook : ∀ a, P (.asked (.findAliasByName n) a)) : (create p n).Ends (Each P) := by
  unfold create
  refine each_bind (each_request hask) fun a => ?_
  split
  · exact each_pure _
  · exact each_claimFailure hlook _

/-- The steps of a promotion are its attempts and the records that another one is made. -/
theorem each_promoteFrom (hask : ∀ a, P (.asked (.promoteAlias p n) a))
    (hretry : ∀ event fields, P (.wrote (retryRecord event fields))) (attempt left : Nat) :
    (promoteFrom p n attempt left).Ends (Each P) := by
  have htry : ∀ onBusy : RepositoryError → Call Document, (∀ e, (onBusy e).Ends (Each P)) →
      (tryPromote p n onBusy).Ends (Each P) := by
    intro onBusy hbusy
    unfold tryPromote
    refine each_bind (each_request hask) fun a => ?_
    split
    · exact each_pure _
    · split
      · exact hbusy _
      · exact each_throw _
  induction left generalizing attempt with
  | zero => exact htry _ fun e => each_throw _
  | succ left ih =>
    exact htry _ fun e => each_bind (each_log (hretry _ _)) fun _ => ih (attempt + 1)

end AliasService

end Namebook
