/-
  Namebook.Proofs.Service.Attempts
  ────────────────────────────────
  **A PROMOTION AND ITS ATTEMPTS.**

  A promotion is tried until it is answered otherwise than by a lock, or until no attempt is left.  Each
  attempt but the last one costs a warning that counts it.

    • `RepositoryError.OfLock` — failures by a lock; `isBusy_iff`;
    • `Tried` — the attempts of a promotion, one after the other; `tried_promote`;
    • `Tried.stopped` — where they stop, whoever answers.
-/
import Namebook.Proofs.Service.Reporting

namespace Namebook

/-! ## §1. Locks. -/

/-- **A failure by a lock**: the primary part of its result code, which is its low eight bits, is that of
a locked file or of a locked table. -/
def RepositoryError.OfLock (e : RepositoryError) : Prop :=
  ∃ (cause : EngineError) (code : Int), e = .store (.engine cause) ∧ cause.code? = some code ∧
    (code % 256 = 5 ∨ code % 256 = 6)

/-- Trying again is thought to help against locks and nothing else. -/
theorem RepositoryError.isBusy_iff {e : RepositoryError} : e.isBusy = true ↔ e.OfLock := by
  constructor
  · intro h
    cases e with
    | store failure =>
      cases failure with
      | engine cause =>
        have hbusy : cause.isBusy = true := h
        unfold EngineError.isBusy at hbusy
        split at hbusy
        next code hcode =>
          rw [Bool.or_eq_true, decide_eq_true_eq, decide_eq_true_eq] at hbusy
          exact ⟨cause, code, rfl, hcode, hbusy⟩
        · cases hbusy
      | unsupportedVersion found latest => cases h
    | _ => cases h
  · rintro ⟨cause, code, rfl, hcode, hprimary⟩
    show cause.isBusy = true
    unfold EngineError.isBusy
    rw [hcode]
    dsimp only
    rw [Bool.or_eq_true, decide_eq_true_eq, decide_eq_true_eq]
    exact hprimary

/-- A change was refused because of a lock. -/
def Locked (a : Except RepositoryError Document) : Prop :=
  ∃ e, a = .error e ∧ e.OfLock

theorem locked_error_iff {e : RepositoryError} : Locked (.error e) ↔ e.OfLock := by
  constructor
  · rintro ⟨e', he, h⟩
    cases he
    exact h
  · exact fun h => ⟨e, rfl, h⟩

theorem not_locked_ok (d : Document) : ¬Locked (.ok d) := by
  rintro ⟨e, he, -⟩
  cases he

/-! ## §2. Attempts. -/

namespace Dialogue

variable {σ : Type} {answer : (r : Request) → σ → r.Answer × σ} {s s' : σ} {es : List Exchange}

/-- A request in front was answered first. -/
theorem Answered.of_asked {r : Request} {a : r.Answer}
    (h : Answered answer s (.asked r a :: es) s') :
    a = (answer r s).1 ∧ Answered answer (answer r s).2 es s' := by
  generalize htail : Exchange.asked r a :: es = tail at h
  cases h with
  | asked r' h =>
    cases htail
    exact ⟨rfl, h⟩
  | _ => cases htail

theorem Answered.of_wrote {entry : Log.Record} (h : Answered answer s (.wrote entry :: es) s') :
    Answered answer s es s' := by
  cases h with
  | wrote entry h => exact h

theorem Answered.of_nil (h : Answered answer s [] s') : s' = s := by
  cases h
  rfl

end Dialogue

/-- The request that was made, with its answer. -/
def Exchange.asked? : Exchange → Option ((r : Request) × r.Answer)
  | asked r a => some ⟨r, a⟩
  | _ => none

namespace AliasService

open Call

variable {p n : String} {attempt left : Nat}

/-- The warning that an attempt has met a lock and another one is made. -/
def againRecord (p : String) (attempt : Nat) : Log.Record :=
  retryRecord "alias_promote" [("public_id", p), ("attempt", toString attempt)]

/-- **The attempts of a promotion**, the first of which has the number `attempt` while `left` more may
follow, and the result of the last one. -/
inductive Tried (p n : String) :
    (attempt left : Nat) → List Exchange → Except ServiceError Document → Prop where
  /-- Any answer but a lock is passed on. -/
  | answered {attempt left : Nat} {a : Except RepositoryError Document} (h : ¬Locked a) :
      Tried p n attempt left [.asked (.promoteAlias p n) a] (a.mapError ServiceError.ofRepository)
  /-- At a lock the last attempt gives up. -/
  | gaveUp {attempt : Nat} {e : RepositoryError} (h : e.OfLock) :
      Tried p n attempt 0 [.asked (.promoteAlias p n) (.error e)] (.error (stillLocked p attempt e))
  /-- At a lock any other attempt warns, and the next one is made. -/
  | again {attempt left : Nat} {e : RepositoryError} {es : List Exchange}
      {v : Except ServiceError Document} (h : e.OfLock) (hnext : Tried p n (attempt + 1) left es v) :
      Tried p n attempt (left + 1)
        (.asked (.promoteAlias p n) (.error e) :: .wrote (againRecord p attempt) :: es) v

/-- One attempt: a lock is left to `onBusy`. -/
theorem ends_tryPromote {onBusy : RepositoryError → Call Document}
    {Q : List Exchange → Except ServiceError Document → Prop}
    (hanswered : ∀ a : Except RepositoryError Document, ¬Locked a →
      Q [.asked (.promoteAlias p n) a] (a.mapError ServiceError.ofRepository))
    (hbusy : ∀ e, e.OfLock →
      (onBusy e).Ends fun es v => Q (.asked (.promoteAlias p n) (.error e) :: es) v) :
    (tryPromote p n onBusy).Ends Q := by
  unfold tryPromote
  rw [ends_bind, ends_request]
  intro a
  cases a with
  | ok d => exact hanswered (.ok d) (not_locked_ok d)
  | error e =>
    show Call.Ends (if e.isBusy = true then onBusy e else throw (ServiceError.ofRepository e))
      fun es v => Q (.asked (.promoteAlias p n) (.error e) :: es) v
    split
    next h => exact hbusy e (RepositoryError.isBusy_iff.1 h)
    next h =>
      refine ends_throw.2 (hanswered (.error e) fun hlocked => h ?_)
      exact RepositoryError.isBusy_iff.2 (locked_error_iff.1 hlocked)

theorem tried_promoteFrom (p n : String) (attempt left : Nat) :
    (promoteFrom p n attempt left).Ends (Tried p n attempt left) := by
  -- on the attempts that are left, while their numbers go up
  induction left generalizing attempt with
  | zero => exact ends_tryPromote (fun a h => .answered h) fun e h => ends_throw.2 (.gaveUp h)
  | succ left ih =>
    refine ends_tryPromote (fun a h => .answered h) fun e h => ?_
    rw [ends_bind, ends_log]
    exact (ih (attempt + 1)).mono fun es v hnext => .again h hnext

/-- **A promotion is its attempts and one more record**, which is no warning. -/
theorem tried_promote (p n : String) :
    (promote p n).Ends fun es v => ∃ tries last, es = tries ++ [.wrote last] ∧ ¬last.IsRetry ∧
      Tried p n 1 (promoteAttempts - 1) tries v := by
  unfold promote logged
  rw [ends_tryCatch, ends_bind]
  refine (tried_promoteFrom p n 1 (promoteAttempts - 1)).mono fun es v htried => ?_
  -- what comes after the attempts is the record of the success or of the failure
  cases v with
  | ok d =>
    dsimp only
    rw [ends_bind, ends_log]
    exact ⟨es, _, rfl, fun hretry => (by cases hretry.1), htried⟩
  | error e =>
    exact ends_fail.2 ⟨es, _, rfl, (tells_failureRecord "alias_promote" p n e).not_isRetry, htried⟩

/-! ## §3. Where they stop. -/

section

variable {σ : Type} (answer : (r : Request) → σ → r.Answer × σ) (p n : String)

/-- The state of whoever answers after `k` attempts. -/
def attemptState (s : σ) : Nat → σ
  | 0 => s
  | k + 1 => (answer (.promoteAlias p n) (attemptState s k)).2

/-- The answer to attempt `k`, counted from zero. -/
def attemptAnswer (s : σ) (k : Nat) : Except RepositoryError Document :=
  (answer (.promoteAlias p n) (attemptState answer p n s k)).1

theorem attemptState_succ (s : σ) (k : Nat) :
    attemptState answer p n (answer (.promoteAlias p n) s).2 k = attemptState answer p n s (k + 1) := by
  induction k with
  | zero => rfl
  | succ k ih => exact congrArg (fun t => (answer (.promoteAlias p n) t).2) ih

theorem attemptAnswer_succ (s : σ) (k : Nat) :
    attemptAnswer answer p n (answer (.promoteAlias p n) s).2 k = attemptAnswer answer p n s (k + 1) :=
  congrArg (fun t => (answer (.promoteAlias p n) t).1) (attemptState_succ answer p n s k)

end

/-- **The attempts stop with number `k`**, counted from zero, of those answered by `a` in turn: the ones
before it met a lock and were warned of, and it gives the result. -/
structure Stopped (p n : String) (a : Nat → Except RepositoryError Document) (attempt left k : Nat)
    (es : List Exchange) (v : Except ServiceError Document) : Prop where
  le : k ≤ left
  locked : ∀ j < k, Locked (a j)
  asked : es.filterMap Exchange.asked? = (List.range (k + 1)).map fun j => ⟨.promoteAlias p n, a j⟩
  wrote : es.filterMap Exchange.record? = (List.range k).map fun j => againRecord p (attempt + j)
  value : ¬Locked (a k) ∧ v = (a k).mapError ServiceError.ofRepository ∨
    k = left ∧ ∃ e, a k = .error e ∧ e.OfLock ∧ v = .error (stillLocked p (attempt + k) e)

/-- What is said of the first numbers, the first one apart. -/
theorem map_range_succ {α : Type} (f : Nat → α) (k : Nat) :
    (List.range (k + 1)).map f = f 0 :: (List.range k).map fun j => f (j + 1) := by
  rw [List.range_succ_eq_map, List.map_cons, List.map_map]
  rfl

/-- One more attempt in front, which met a lock. -/
theorem Stopped.again {a : Nat → Except RepositoryError Document} {k : Nat} {es : List Exchange}
    {v : Except ServiceError Document} {e : RepositoryError} (hfirst : a 0 = .error e) (h : e.OfLock)
    (hnext : Stopped p n (fun j => a (j + 1)) (attempt + 1) left k es v) :
    Stopped p n a attempt (left + 1) (k + 1)
      (.asked (.promoteAlias p n) (.error e) :: .wrote (againRecord p attempt) :: es) v where
  le := Nat.succ_le_succ hnext.le
  locked := by
    intro j hj
    cases j with
    | zero => exact ⟨e, hfirst, h⟩
    | succ j => exact hnext.locked j (Nat.lt_of_succ_lt_succ hj)
  asked := by
    show (⟨.promoteAlias p n, .error e⟩ : (r : Request) × r.Answer) ::
      es.filterMap Exchange.asked? = _
    rw [hnext.asked, map_range_succ _ (k + 1), hfirst]
  wrote := by
    show againRecord p attempt :: es.filterMap Exchange.record? = _
    rw [hnext.wrote, map_range_succ]
    refine congrArg (againRecord p attempt :: ·) (List.map_congr_left fun j _ => ?_)
    show againRecord p (attempt + 1 + j) = againRecord p (attempt + (j + 1))
    rw [Nat.add_assoc, Nat.add_comm 1 j]
  value := by
    refine hnext.value.imp_right fun ⟨hk, e', ha, he', hv⟩ => ⟨congrArg (· + 1) hk, e', ha, he', ?_⟩
    rw [hv, Nat.add_assoc, Nat.add_comm 1 k]

/-- The first attempt of all stops. -/
theorem stopped_first {a : Nat → Except RepositoryError Document} {v : Except ServiceError Document}
    (h : ¬Locked (a 0) ∧ v = (a 0).mapError ServiceError.ofRepository ∨
      left = 0 ∧ ∃ e, a 0 = .error e ∧ e.OfLock ∧ v = .error (stillLocked p attempt e)) :
    Stopped p n a attempt left 0 [.asked (.promoteAlias p n) (a 0)] v where
  le := Nat.zero_le left
  locked := fun j hj => absurd hj (Nat.not_lt_zero j)
  asked := rfl
  wrote := rfl
  value := h.imp_right fun ⟨hleft, hgaveUp⟩ => ⟨hleft.symm, hgaveUp⟩

/-- **Attempts that somebody answers stop somewhere.** -/
theorem Tried.stopped {σ : Type} {answer : (r : Request) → σ → r.Answer × σ} {s s' : σ}
    {es : List Exchange} {v : Except ServiceError Document} (h : Tried p n attempt left es v)
    (hes : Dialogue.Answered answer s es s') :
    ∃ k, Stopped p n (attemptAnswer answer p n s) attempt left k es v ∧
      s' = attemptState answer p n s (k + 1) := by
  induction h generalizing s with
  | answered h =>
    obtain ⟨rfl, hnil⟩ := hes.of_asked
    exact ⟨0, stopped_first (Or.inl ⟨h, rfl⟩), hnil.of_nil⟩
  | @gaveUp attempt e h =>
    obtain ⟨he, hnil⟩ := hes.of_asked
    rw [he]
    exact ⟨0, stopped_first (Or.inr ⟨rfl, e, he.symm, h, rfl⟩), hnil.of_nil⟩
  | @again attempt left e es v h hnext ih =>
    obtain ⟨he, hrest⟩ := hes.of_asked
    obtain ⟨k, hstopped, rfl⟩ := ih hrest.of_wrote
    -- attempt `j` of the rest, which starts from the next state, is attempt `j + 1` of the whole
    rw [attemptState_succ]
    have hsame : attemptAnswer answer p n (answer (.promoteAlias p n) s).2
        = fun j => attemptAnswer answer p n s (j + 1) := funext (attemptAnswer_succ answer p n s)
    rw [hsame] at hstopped
    exact ⟨k + 1, hstopped.again he.symm h, rfl⟩

end AliasService

end Namebook
