/-
  Namebook.Proofs.Service.Reporting
  ─────────────────────────────────
  **HOW A FAILED CALL IS REPORTED.**

  Whatever the repositories answer, a failed call ends with the one record that tells of its error,
  and before it only further attempts were recorded.  There is one way out that leaves no record: a
  creation loses its alias to somebody else and the look that follows fails.

    • `Reported`, `Unreported` — the transcripts of the two;
    • `told_…` — the calls that report every failure; `toldOrLost_create` — the one that may not;
    • `ServiceCall.reported_dialogue` — all calls, whoever answers.
-/
import Namebook.Proofs.Service.Check

namespace Namebook

/-! ## §1. Reports. -/

namespace Log.Record

/-- A record of an attempt that is made again. -/
def IsRetry (entry : Log.Record) : Prop :=
  entry.level = .warn ∧ entry.status = .retry

/-- **A record that tells of an error**: loudly of a fault on this side, and else as a rejection. -/
structure Tells (entry : Log.Record) (e : ServiceError) : Prop where
  level : entry.level = if e.kind = .internal then .error else .info
  status : entry.status = if e.kind = .internal then .error else .rejected

theorem Tells.not_isRetry {entry : Log.Record} {e : ServiceError} (h : entry.Tells e) :
    ¬entry.IsRetry := by
  intro hretry
  have hstatus := h.status.symm.trans hretry.2
  split at hstatus <;> cases hstatus

end Log.Record

/-- A step that records nothing but another attempt. -/
def Exchange.Reticent : Exchange → Prop
  | wrote entry => entry.IsRetry
  | _ => True

theorem reticent_asked (r : Request) (a : r.Answer) : Exchange.Reticent (.asked r a) := trivial

/-- Nothing was recorded but further attempts. -/
def OnlyRetries (es : List Exchange) : Prop := ∀ x ∈ es, x.Reticent

theorem OnlyRetries.append {es es' : List Exchange} (h : OnlyRetries es) (h' : OnlyRetries es') :
    OnlyRetries (es ++ es') :=
  List.forall_mem_append.2 ⟨h, h'⟩

theorem onlyRetries_single {x : Exchange} (h : x.Reticent) : OnlyRetries [x] :=
  List.forall_mem_singleton.2 h

/-- **An error is reported** by the last step, and by no step before it. -/
def Reported (es : List Exchange) (e : ServiceError) : Prop :=
  ∃ before entry, es = before ++ [.wrote entry] ∧ OnlyRetries before ∧ entry.Tells e

/-- **The way out without a report**: the alias of a new document was refused as taken, and the look
for the public id that may have taken it fails. -/
inductive Unreported : List Exchange → ServiceError → Prop where
  | lost (before : List Exchange) {p n : String} {initial : Option String} {e : RepositoryError} :
      n ≠ p → Unreported
        (before ++ [.asked (.createDocument p initial) (.error (.nameTaken n)),
          .asked (.findByPublicId n) (.error e)]) (.ofRepository e)

theorem Reported.append {es pre : List Exchange} {e : ServiceError} (h : Reported es e)
    (hpre : OnlyRetries pre) : Reported (pre ++ es) e := by
  obtain ⟨before, entry, rfl, hbefore, htells⟩ := h
  exact ⟨pre ++ before, entry, (List.append_assoc ..).symm, hpre.append hbefore, htells⟩

theorem Unreported.append {es : List Exchange} {e : ServiceError} (h : Unreported es e)
    (pre : List Exchange) : Unreported (pre ++ es) e := by
  cases h with
  | lost before hne => rw [← List.append_assoc]; exact .lost _ hne

/-- What is reported ends with a record, and what is not ends with an answer. -/
theorem Reported.not_unreported {es : List Exchange} {e e' : ServiceError} (h : Reported es e) :
    ¬Unreported es e' := by
  obtain ⟨before, entry, rfl, -⟩ := h
  intro hlost
  generalize hes : before ++ [Exchange.wrote entry] = es at hlost
  cases hlost with
  | lost before' _ =>
    have hlast := congrArg List.getLast? hes
    simp at hlast

namespace Call

variable {α β : Type}

/-- A failure that was not recorded yet. -/
def Untold (es : List Exchange) : Except ServiceError α → Prop
  | .ok _ => True
  | .error _ => OnlyRetries es

/-- A success without a record, or a failure with its report. -/
def Cleared (es : List Exchange) : Except ServiceError α → Prop
  | .ok _ => OnlyRetries es
  | .error e => Reported es e

/-- **A failure is reported.** -/
def Told (es : List Exchange) : Except ServiceError α → Prop
  | .ok _ => True
  | .error e => Reported es e

/-- **A failure is reported, but for the one way out.** -/
def ToldOrLost (es : List Exchange) : Except ServiceError α → Prop
  | .ok _ => True
  | .error e => Reported es e ∨ Unreported es e ∧ OnlyRetries es

theorem toldOrLost_append {es pre : List Exchange} {v : Except ServiceError α}
    (hpre : OnlyRetries pre) (h : ToldOrLost es v) : ToldOrLost (pre ++ es) v := by
  cases v with
  | ok a => exact trivial
  | error e => exact h.imp (·.append hpre) fun hlost => ⟨hlost.1.append pre, hpre.append hlost.2⟩

theorem toldOrLost_of_told {call : Call α} (h : call.Ends Told) : call.Ends ToldOrLost := by
  refine h.mono fun es v hes => ?_
  cases v with
  | ok a => exact trivial
  | error e => exact Or.inl hes

/-! ## §2. How they compose. -/

theorem untold_of_each {call : Call α} (h : call.Ends (Each Exchange.Reticent)) :
    call.Ends Untold := by
  refine h.mono fun es v hes => ?_
  cases v with
  | ok a => exact trivial
  | error e => exact hes

theorem untold_bind {x : Call β} {f : β → Call α} (hx : x.Ends (Each Exchange.Reticent))
    (hf : ∀ b, (f b).Ends Untold) : (x >>= f).Ends Untold := by
  rw [ends_bind]
  refine hx.mono fun es v hes => ?_
  cases v with
  | error e => exact hes
  | ok b =>
    refine (hf b).mono fun es' w hes' => ?_
    cases w with
    | ok a => exact trivial
    | error e => exact OnlyRetries.append hes hes'

/-- A success is recorded, which cannot fail. -/
theorem untold_report {x : Call α} {entry : α → Log.Record}
    (hx : x.Ends (Each Exchange.Reticent)) :
    Call.Ends (do
      let a ← x
      (Dialogue.log (entry a) : Dialogue Unit)
      return a) Untold :=
  untold_bind hx fun a => by
    rw [ends_bind, ends_log]
    exact trivial

theorem toldOrLost_bind {x : Call β} {f : β → Call α} (hx : x.Ends Cleared)
    (hf : ∀ b, (f b).Ends ToldOrLost) : (x >>= f).Ends ToldOrLost := by
  rw [ends_bind]
  refine hx.mono fun es v hes => ?_
  cases v with
  | error e => exact Or.inl hes
  | ok b => exact (hf b).mono fun es' w hes' => toldOrLost_append hes hes'

/-! ## §3. The building blocks of the calls. -/

/-- **The record of a failure tells of its error.** -/
theorem tells_failureRecord (event publicId name : String) (e : ServiceError) :
    (failureRecord event publicId name e).Tells e := by
  unfold failureRecord
  by_cases hkind : e.kind = .internal
  · rw [if_pos hkind]
    exact ⟨(if_pos hkind).symm, (if_pos hkind).symm⟩
  · rw [if_neg hkind]
    exact ⟨(if_neg hkind).symm, (if_neg hkind).symm⟩

theorem reported_failureRecord {es : List Exchange} (hes : OnlyRetries es)
    (event publicId name : String) (e : ServiceError) :
    Reported (es ++ [.wrote (failureRecord event publicId name e)]) e :=
  ⟨es, _, rfl, hes, tells_failureRecord event publicId name e⟩

theorem told_fail (event publicId name : String) (e : ServiceError) :
    (fail event publicId name e : Call α).Ends Told :=
  ends_fail.2 (reported_failureRecord (List.forall_mem_nil _) event publicId name e)

/-- A failure that was not recorded yet is recorded at the end. -/
theorem told_logged {event publicId name : String} {call : Call α} (h : call.Ends Untold) :
    (logged event publicId name call).Ends Told := by
  unfold logged
  rw [ends_tryCatch]
  refine h.mono fun es v hes => ?_
  cases v with
  | ok a => exact trivial
  | error e => exact ends_fail.2 (reported_failureRecord hes event publicId name e)

theorem cleared_logged {event publicId name : String} {call : Call α}
    (h : call.Ends (Each Exchange.Reticent)) : (logged event publicId name call).Ends Cleared := by
  unfold logged
  rw [ends_tryCatch]
  refine h.mono fun es v hes => ?_
  cases v with
  | ok a => exact hes
  | error e => exact ends_fail.2 (reported_failureRecord hes event publicId name e)

theorem reticent_ofAnswer (r : Request) :
    Ends (ofAnswer (Dialogue.request r)) (Each Exchange.Reticent) :=
  each_ofAnswer (reticent_asked r)

theorem reticent_retry (event : String) (fields : List (String × String)) :
    Exchange.Reticent (.wrote (retryRecord event fields)) := ⟨rfl, rfl⟩

end Call

/-! ## §4. The six calls. -/

open Call

namespace AliasService

variable (reserved : ReservedNames) (p n : String)

theorem told_add : (add reserved p n).Ends Told := by
  unfold add
  rw [checkNew_eq]
  refine told_logged (untold_bind ?_ fun _ => untold_report ?_)
  · exact each_checked (reticent_ofAnswer _) (reticent_ofAnswer _)
  · exact each_create (reticent_asked _) (reticent_asked _)

theorem told_remove : (remove p n).Ends Told := by
  unfold remove
  exact told_logged (untold_report (reticent_ofAnswer _))

theorem told_promote : (promote p n).Ends Told := by
  unfold promote
  exact told_logged (untold_report (each_promoteFrom (reticent_asked _) reticent_retry 1 _))

theorem told_view : (view p n).Ends Told := by
  unfold view
  refine told_logged (untold_of_each (each_bind (reticent_ofAnswer _) fun found => ?_))
  split
  · exact each_pure _
  · exact each_throw _

end AliasService

namespace DocumentService

theorem told_resolve (n : String) : (resolve n).Ends Told := by
  unfold resolve
  refine told_logged (untold_of_each (each_bind (reticent_ofAnswer _) fun found => ?_))
  split
  · exact each_pure _
  · refine each_bind (reticent_ofAnswer _) fun found => ?_
    split
    · exact each_pure _
    · exact each_throw _

/-- **The look that nobody reports.**  The refusal that leads to it is part of the transcript. -/
theorem toldOrLost_takenMeanwhile {p n : String} {initial : Option String} (hne : n ≠ p) :
    (takenMeanwhile p n).Ends fun es w =>
      ToldOrLost (.asked (.createDocument p initial) (.error (.nameTaken n)) :: es) w := by
  unfold takenMeanwhile
  rw [ends_bind]
  unfold findByPublicId
  rw [ends_ofAnswer]
  intro a
  have hasked : OnlyRetries [.asked (.createDocument p initial) (.error (.nameTaken n)),
      .asked (.findByPublicId n) a] :=
    List.forall_mem_cons.2 ⟨reticent_asked _ _, onlyRetries_single (reticent_asked _ _)⟩
  cases a with
  | error e => exact Or.inr ⟨.lost [] hne, hasked⟩
  | ok found =>
    refine (toldOrLost_of_told (told_fail createEvent p n _)).mono fun es w hes => ?_
    exact toldOrLost_append hasked hes

theorem toldOrLost_createFrom (initial : Option String) (attempt left : Nat) :
    (createFrom initial attempt left).Ends ToldOrLost := by
  -- no error leaves an attempt but through `fail`; the exception is the look after a lost alias
  induction left generalizing attempt with
  | zero => exact toldOrLost_of_told (told_fail _ _ _ _)
  | succ left ih =>
    unfold createFrom
    refine toldOrLost_bind (ends_block.2 fun b => onlyRetries_single trivial) fun block => ?_
    generalize PublicId.encode block = p
    rw [ends_bind, ends_request]
    intro a
    -- what follows a refusal is told after it
    have hafter : ∀ call : Call Document, call.Ends ToldOrLost →
        call.Ends fun es w => ToldOrLost (.asked (.createDocument p initial) a :: es) w :=
      fun call h => h.mono fun es w hes =>
        toldOrLost_append (onlyRetries_single (reticent_asked _ a)) hes
    cases a with
    | ok d =>
      dsimp only
      rw [ends_bind, ends_log]
      exact trivial
    | error e =>
      cases e with
      | nameTaken n =>
        show Call.Ends (if n = p then _ else _) _
        split
        · refine hafter _ (toldOrLost_bind (ends_log.2 ?_) fun _ => ih (attempt + 1))
          exact onlyRetries_single (reticent_retry _ _)
        next hne => exact toldOrLost_takenMeanwhile hne
      | _ => exact hafter _ (toldOrLost_of_told (told_fail _ _ _ _))

theorem toldOrLost_create (reserved : ReservedNames) (initial : Option String) :
    (create reserved initial).Ends ToldOrLost := by
  unfold create
  cases initial with
  | none => exact toldOrLost_createFrom none 1 createAttempts
  | some n =>
    refine toldOrLost_bind (cleared_logged ?_) fun _ =>
      toldOrLost_createFrom (some n) 1 createAttempts
    exact each_checked (reticent_ofAnswer _) (reticent_ofAnswer _)

end DocumentService

/-- **Every failure is reported, but for the one way out of a creation.** -/
theorem ServiceCall.reported_dialogue (reserved : ReservedNames) (s : ServiceCall) :
    (s.dialogue reserved).Ends fun es v => ∀ e, v = .error e →
      Reported es e ∨ Unreported es e ∧ OnlyRetries es ∧ ∃ initial, s = .create initial := by
  have htold : ∀ {s : ServiceCall}, (s.dialogue reserved).Ends Told →
      (s.dialogue reserved).Ends fun es v => ∀ e, v = .error e →
        Reported es e ∨ Unreported es e ∧ OnlyRetries es ∧ ∃ initial, s = .create initial := by
    intro s h
    refine h.mono fun es v hes e hv => Or.inl ?_
    subst hv
    exact hes
  cases s with
  | add p n => exact htold (AliasService.told_add reserved p n)
  | remove p n => exact htold (AliasService.told_remove p n)
  | promote p n => exact htold (AliasService.told_promote p n)
  | view p n => exact htold (AliasService.told_view p n)
  | resolve n => exact htold (DocumentService.told_resolve n)
  | create initial =>
    refine (DocumentService.toldOrLost_create reserved initial).mono fun es v hes e hv => ?_
    subst hv
    exact hes.imp_right fun hlost => ⟨hlost.1, hlost.2, initial, rfl⟩

/-! ## §5. The log. -/

/-- The records of a transcript with nothing but further attempts. -/
theorem OnlyRetries.isRetry_of_mem {es : List Exchange} (h : OnlyRetries es) :
    ∀ entry ∈ es.filterMap Exchange.record?, entry.IsRetry := by
  intro entry hmem
  obtain ⟨x, hx, hentry⟩ := List.mem_filterMap.1 hmem
  cases x with
  | wrote entry' =>
    cases hentry
    exact h _ hx
  | _ => cases hentry

theorem Reported.exists_records {es : List Exchange} {e : ServiceError} (h : Reported es e) :
    ∃ retries last, es.filterMap Exchange.record? = retries ++ [last] ∧
      (∀ entry ∈ retries, entry.IsRetry) ∧ last.Tells e := by
  obtain ⟨before, entry, rfl, hbefore, htells⟩ := h
  exact ⟨_, entry, List.filterMap_append, hbefore.isRetry_of_mem, htells⟩

end Namebook
