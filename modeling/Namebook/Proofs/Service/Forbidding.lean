/-
  Namebook.Proofs.Service.Forbidding
  ──────────────────────────────────
  **WHAT IS FORBIDDEN — the names of the reserved set, and no others.**

  Adding an alias and creating a document with one check the name before anything else.  Neither the
  repositories nor any later step of a call can say that a name is forbidden, so this is decided by the
  reserved set alone, whatever the answers are:

    • `Call.Forbidding` — a call says so under a condition;
    • `AliasService.forbidding_add`, `DocumentService.forbidding_create`.
-/
import Namebook.Proofs.Service.Steps

namespace Namebook

/-- No error of a repository says that a name is forbidden. -/
theorem ServiceError.ofRepository_ne_forbiddenName (e : RepositoryError) (n : String) :
    ofRepository e ≠ .forbiddenName n := by
  intro h
  cases e <;> cases h

namespace Call

variable {α β : Type} {p : Prop} {n : String}

/-! ## §1. Calls that forbid a name. -/

/-- **The name `n` is forbidden exactly under `p`**, and no other name is. -/
def Forbidding (p : Prop) (n : String) (_ : List Exchange) (v : Except ServiceError α) : Prop :=
  ∀ m, v = .error (.forbiddenName m) ↔ m = n ∧ p

/-- An outcome of another kind forbids nothing. -/
theorem forbidding_of_ne {es : List Exchange} {v : Except ServiceError α}
    (h : ∀ m, v ≠ .error (.forbiddenName m)) : Forbidding False n es v :=
  fun m => ⟨fun hv => absurd hv (h m), fun hfalse => hfalse.2.elim⟩

theorem forbidding_ok (es : List Exchange) (a : α) :
    Forbidding False n es (.ok a : Except ServiceError α) :=
  forbidding_of_ne fun _ h => by cases h

/-- A call in two parts forbids what its first part forbids. -/
theorem forbidding_bind {x : Call β} {f : β → Call α} (hx : x.Ends (Forbidding p n))
    (hf : ∀ b, (f b).Ends (Forbidding False n)) : (x >>= f).Ends (Forbidding p n) := by
  rw [ends_bind]
  refine hx.mono fun es v hv => ?_
  cases v with
  | error e =>
    intro m
    rw [← hv m, Except.error.injEq, Except.error.injEq]
  | ok b =>
    -- the first part has passed, so its condition does not hold
    have hnot : ¬ p := fun hp => by cases (hv n).2 ⟨rfl, hp⟩
    refine (hf b).mono fun es' w hw m => ?_
    rw [hw m, eq_false hnot]

theorem forbidding_pure (a : α) : Ends (pure a : Call α) (Forbidding False n) :=
  ends_pure.2 (forbidding_ok _ a)

theorem forbidding_throw {e : ServiceError} (h : ∀ m, e ≠ .forbiddenName m) :
    Ends (throw e : Call α) (Forbidding False n) :=
  ends_throw.2 (forbidding_of_ne fun m hv => h m (Except.error.inj hv))

theorem forbidding_log (entry : Log.Record) :
    Ends (Dialogue.log entry : Dialogue Unit) (Forbidding False n) :=
  ends_log.2 (forbidding_ok _ ())

theorem forbidding_request (r : Request) :
    Ends (Dialogue.request r : Dialogue r.Answer) (Forbidding False n) :=
  ends_request.2 fun a => forbidding_ok _ a

theorem forbidding_block : Ends (Dialogue.block : Dialogue Block) (Forbidding False n) :=
  ends_block.2 fun b => forbidding_ok _ b

theorem forbidding_ofAnswer (r : Request) :
    Ends (ofAnswer (Dialogue.request r)) (Forbidding False n) := by
  refine ends_ofAnswer.2 fun a => ?_
  cases a with
  | ok v => exact forbidding_ok _ v
  | error e =>
    exact forbidding_of_ne fun m h =>
      ServiceError.ofRepository_ne_forbiddenName e m (Except.error.inj h)

theorem forbidding_fail {event publicId name : String} {e : ServiceError}
    (h : ∀ m, e ≠ .forbiddenName m) :
    (fail event publicId name e : Call α).Ends (Forbidding False n) :=
  ends_fail.2 (forbidding_of_ne fun m hv => h m (Except.error.inj hv))

/-- The record of a failure does not change it. -/
theorem forbidding_logged {event publicId name : String} {x : Call α}
    (h : x.Ends (Forbidding p n)) : (logged event publicId name x).Ends (Forbidding p n) := by
  unfold logged
  rw [ends_tryCatch]
  refine h.mono fun es v hv => ?_
  cases v with
  | ok a => exact hv
  | error e => exact ends_fail.2 hv

/-! ## §2. The check of a name. -/

variable {reserved : ReservedNames} {first : Call (Option α)} {second : Call (Option β)}

/-- A name that is reserved and not blank. -/
def IsForbidden (reserved : ReservedNames) (n : String) : Prop :=
  Text.isBlank n = false ∧ reserved.contains n = true

theorem checkName_eq_forbiddenName_iff {m : String} :
    checkName reserved n = .error (.forbiddenName m) ↔ m = n ∧ IsForbidden reserved n := by
  unfold checkName IsForbidden
  cases Text.isBlank n with
  | true => exact iff_of_false nofun fun h => nomatch h.2.1
  | false =>
    cases reserved.contains n with
    | true =>
      constructor
      · intro h
        cases h
        exact ⟨rfl, rfl, rfl⟩
      · intro h
        rw [h.1]
        rfl
    | false => exact iff_of_false nofun fun h => nomatch h.2.2

/-- A check forbids what the name check forbids; its looks forbid nothing. -/
theorem forbidding_checked (hfirst : first.Ends (Forbidding False n))
    (hsecond : second.Ends (Forbidding False n)) :
    (checked reserved n first second).Ends (Forbidding (IsForbidden reserved n) n) := by
  have hlast : Call.Ends (second >>= fun found =>
      if found.isSome then throw (.alreadyExists n .publicId) else pure ())
      (Forbidding False n) := by
    refine forbidding_bind hsecond fun found => ?_
    split
    · exact forbidding_throw fun m h => by cases h
    · exact forbidding_pure ()
  unfold checked
  refine forbidding_bind (ends_answer.2 fun m => checkName_eq_forbiddenName_iff) fun _ =>
    forbidding_bind hfirst fun found => ?_
  split
  · exact forbidding_bind (forbidding_throw fun m h => by cases h) fun _ => hlast
  · exact hlast

end Call

/-! ## §3. The two calls. -/

open Call

variable {n m : String}

namespace AliasService

theorem forbidding_claimFailure (e : RepositoryError) :
    (claimFailure m e).Ends (Forbidding False n) := by
  unfold claimFailure
  split
  · refine forbidding_bind (forbidding_ofAnswer _) fun found => ?_
    split
    · exact forbidding_throw fun m h => by cases h
    · exact forbidding_throw fun m h => by cases h
  · exact forbidding_throw (ServiceError.ofRepository_ne_forbiddenName _)

/-- **Adding an alias forbids the reserved names that are not blank.** -/
theorem forbidding_add (reserved : ReservedNames) (p n : String) :
    (add reserved p n).Ends (Forbidding (IsForbidden reserved n) n) := by
  unfold add
  rw [checkNew_eq]
  refine forbidding_logged (forbidding_bind
    (forbidding_checked (forbidding_ofAnswer _) (forbidding_ofAnswer _)) fun _ => ?_)
  refine forbidding_bind ?_ fun d => forbidding_bind (forbidding_log _) fun _ => forbidding_pure d
  unfold create
  refine forbidding_bind (forbidding_request _) fun a => ?_
  split
  · exact forbidding_pure _
  · exact forbidding_claimFailure _

end AliasService

namespace DocumentService

theorem forbidding_createFrom (initial : Option String) (attempt left : Nat) :
    (createFrom initial attempt left).Ends (Forbidding False n) := by
  induction left generalizing attempt with
  | zero => exact forbidding_fail fun m h => by cases h
  | succ left ih =>
    unfold createFrom
    refine forbidding_bind forbidding_block fun block => ?_
    generalize PublicId.encode block = publicId
    refine forbidding_bind (forbidding_request _) fun a => ?_
    cases a with
    | ok d => exact forbidding_bind (forbidding_log _) fun _ => forbidding_pure d
    | error e =>
      cases e with
      | nameTaken name =>
        show Call.Ends (if name = publicId then _ else _) _
        split
        · exact forbidding_bind (forbidding_log _) fun _ => ih (attempt + 1)
        · exact forbidding_bind (forbidding_ofAnswer _) fun found =>
            forbidding_fail fun m h => by cases h
      | _ => exact forbidding_fail (ServiceError.ofRepository_ne_forbiddenName _)

/-- **Creating a document forbids the same names.** -/
theorem forbidding_create (reserved : ReservedNames) (n : String) :
    (create reserved (some n)).Ends (Forbidding (IsForbidden reserved n) n) := by
  have hcheck : (logged createEvent "-" n (checkInitial reserved n)).Ends
      (Forbidding (IsForbidden reserved n) n) := by
    rw [checkInitial_eq]
    exact forbidding_logged
      (forbidding_checked (forbidding_ofAnswer _) (forbidding_ofAnswer _))
  exact forbidding_bind hcheck fun _ => forbidding_createFrom (some n) 1 createAttempts

/-- A document without an alias is never refused for a name. -/
theorem forbidding_create_none (reserved : ReservedNames) (n : String) :
    (create reserved none).Ends (Forbidding False n) :=
  forbidding_createFrom none 1 createAttempts

end DocumentService

end Namebook
