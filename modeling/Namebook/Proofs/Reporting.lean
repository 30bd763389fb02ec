/-
  Namebook.Proofs.Reporting
  ─────────────────────────
  **FAILURES IN THE LOG — one record for each, with one exception.**

  The repositories are arbitrary: they may be busy, hold damaged data, or be changed by others between
  two requests.  A failed call has written one record of its error, after records of further attempts
  only.  The exception is a creation that loses its alias to somebody else: if the look for the winner
  fails, the call fails with an error that no record tells of.

    • `ServiceCall.failures_are_reported` — which failed calls leave their record, exactly;
    • `ServiceCall.lost_lookup_is_not_reported` — one that does not.
-/
import Namebook.Proofs.Service.Reporting
import Namebook.Repository.Script

namespace Namebook

/-- The transcript of a run of a call. -/
def Call.transcript {α σ : Type} (answer : (r : Request) → σ → r.Answer × σ) (blocks : Nat → Block)
    (call : Call α) (s : σ) (drawn : Nat) : List Exchange :=
  Dialogue.transcript answer blocks (ExceptT.run call) s drawn

namespace ServiceCall

variable {σ : Type}

/-- **Failures in the log.**  Whatever is answered, a call that fails has written one record of its error
as its last, at level error if the fault is internal and else at level info, and before it nothing but
warnings that an attempt is made again — unless it is a creation whose alias was refused as taken and
whose next and last look failed.  Then it has written no record of its error. -/
theorem failures_are_reported (answer : (r : Request) → σ → r.Answer × σ) (blocks : Nat → Block)
    (reserved : ReservedNames) (s : ServiceCall) (state : σ) (drawn : Nat) (e : ServiceError)
    (h : (Call.outcome answer blocks (s.dialogue reserved) state drawn).value = .error e) :
    let log := (Call.outcome answer blocks (s.dialogue reserved) state drawn).log
    let es := Call.transcript answer blocks (s.dialogue reserved) state drawn
    ((∃ retries last, log = retries ++ [last] ∧ (∀ entry ∈ retries, entry.IsRetry) ∧ last.Tells e) ↔
      ¬Unreported es e) ∧
    (Unreported es e → (∃ initial, s = .create initial) ∧ ∀ entry ∈ log, entry.IsRetry) := by
  intro log es
  have hlog : log = es.filterMap Exchange.record? := Dialogue.log_run answer blocks state drawn
  have hends : Reported es e ∨ Unreported es e ∧ OnlyRetries es ∧ ∃ initial, s = .create initial :=
    Dialogue.ends_transcript answer blocks state drawn (s.reported_dialogue reserved) e h
  rw [hlog]
  rcases hends with hreported | ⟨hlost, honly, hcreate⟩
  · refine ⟨iff_of_true hreported.exists_records hreported.not_unreported, fun hlost => ?_⟩
    exact absurd hlost hreported.not_unreported
  · refine ⟨iff_of_false ?_ (not_not_intro hlost), fun _ => ⟨hcreate, honly.isRetry_of_mem⟩⟩
    rintro ⟨retries, last, hrecords, -, htells⟩
    refine htells.not_isRetry (honly.isRetry_of_mem last ?_)
    rw [hrecords]
    exact List.mem_append_right _ (List.mem_singleton_self last)

/-- A store that is locked. -/
def locked : RepositoryError := .ofEngine .locked

/-- A creation finds its alias free; it is refused as taken, and the store is locked for the look that
follows.  Every promotion finds the store locked. -/
def lostLookup : Script :=
  .ofResponses fun
    | .createDocument => [.failure (.nameTaken "notes")]
    | .findByPublicId => [.missing, .failure locked]
    | .promoteAlias => [.failure locked]
    | _ => [.missing]

/-- A promotion that finds the store locked three times fails and is reported. -/
theorem failures_are_reported_locked :
    let o := Call.outcome Script.answer (fun _ => Vector.replicate 16 0)
      ((ServiceCall.promote "d" "a").dialogue ⟨[]⟩) lostLookup 0
    ∃ e, o.value = .error e ∧ ∃ retries last, o.log = retries ++ [last] ∧
      (∀ entry ∈ retries, entry.IsRetry) ∧ last.Tells e := by
  refine ⟨_, rfl, ?_⟩
  refine (failures_are_reported Script.answer _ ⟨[]⟩ (.promote "d" "a") lostLookup 0 _ rfl).1.2 ?_
  intro hlost
  obtain ⟨⟨initial, hcreate⟩, -⟩ :=
    (failures_are_reported Script.answer _ ⟨[]⟩ (.promote "d" "a") lostLookup 0 _ rfl).2 hlost
  cases hcreate

/-- **A failure without a record.**  The look for the winner of the alias fails because the store is
locked.  The creation fails with this error, which is internal, and the log is empty. -/
theorem lost_lookup_is_not_reported :
    let o := Call.outcome Script.answer (fun _ => Vector.replicate 16 0)
      ((ServiceCall.create (some "notes")).dialogue ⟨[]⟩) lostLookup 0
    o.value = .error (.repository locked) ∧ (ServiceError.repository locked).kind = .internal ∧
      o.log = [] ∧
      ¬∃ retries last, o.log = retries ++ [last] ∧ (∀ entry ∈ retries, entry.IsRetry) ∧
        last.Tells (.repository locked) := by
  intro o
  have hlog : o.log = [] := by decide
  refine ⟨rfl, rfl, hlog, ?_⟩
  rintro ⟨retries, last, hrecords, -, -⟩
  rw [hlog] at hrecords
  cases retries <;> cases hrecords

end ServiceCall

end Namebook
