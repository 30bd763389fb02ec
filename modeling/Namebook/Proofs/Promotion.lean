/-
  Namebook.Proofs.Promotion
  ─────────────────────────
  **PROMOTIONS AND LOCKS — three attempts at most, and one result.**

  Whoever answers, and whatever the answers are, a promotion is asked for again after a lock only.  The
  first answer that is no lock is passed on; when every attempt has met a lock, the caller is told of a
  broken invariant and never of the lock itself.

    • `Database.answer_of_occupied` — a store that another connection has locked stays as it is;
    • `AliasService.Retried` — what a promotion makes of its answers;
    • `ServiceCall.promotion_retry_is_bounded` — every promotion, on every repository.
-/
import Namebook.Proofs.Interleaving
import Namebook.Proofs.Reporting
import Namebook.Proofs.Service.Attempts

namespace Namebook

/-! ## §1. Stores that another connection has locked. -/

namespace Database

variable {db : Database} {c : Connection}

/-- **Another connection holds a lock**: its transaction is open, and writes or reads. -/
def Occupied (db : Database) (c : Connection) : Prop :=
  (∃ h ∈ db.held, h.owner ≠ c) ∨ ∃ r ∈ db.readers, r ≠ c

/-- Beside a writer no write transaction begins, and beside a reader none commits that has changed
something. -/
theorem write_of_occupied (h : db.Occupied c) (body : Work Document) : (db.write c body).2 = db := by
  rcases h with ⟨hold, hheld, -⟩ | ⟨r, hr, -⟩
  · -- work that is committed began without any writer
    rcases write_cases db c body with hkeep | ⟨d, t, hnone, -⟩
    · exact hkeep
    · rw [hnone] at hheld
      cases hheld
  · rw [write_eq]
    split
    · rfl
    split
    · rfl
    next d t hrun =>
    split
    · rfl
    next hfree =>
      -- beside the reader only work that has left the tables alone comes to its commit
      have hsame : t = db.committed :=
        Decidable.byContradiction fun hne => hfree ⟨List.ne_nil_of_mem hr, hne⟩
      rw [hsame]

/-- **No request changes a store that another connection has locked.** -/
theorem answer_of_occupied (h : db.Occupied c) (fresh : Fresh) (r : Request) :
    (db.answer c fresh r).2 = db := by
  cases hwork : r.work? fresh with
  | none => exact answer_of_lookup (isChange_of_work? hwork)
  | some w =>
    rw [answer_of_work hwork]
    exact write_of_occupied h w

/-- Nor do any number of them. -/
theorem answered_of_occupied {fresh : Nat → Fresh} {s s' : Database × Nat} {es : List Exchange}
    (hes : Dialogue.Answered (serve c fresh) s es s') (h : s.1.Occupied c) : s'.1 = s.1 := by
  induction hes with
  | nil s => rfl
  | drew b hes ih => exact ih h
  | wrote entry hes ih => exact ih h
  | @asked r s s' es hes ih =>
    have hkeep : (serve c fresh r s).2.1 = s.1 := answer_of_occupied h (fresh s.2) r
    rw [ih (hkeep ▸ h), hkeep]

theorem call_of_occupied {α : Type} (h : db.Occupied c) (supply : Supply) (body : Call α) :
    (db.call c supply body).state = db := by
  have hends : body.Ends fun _ _ => True := Call.ends_of_forall fun _ _ => trivial
  obtain ⟨es, k, -, hes⟩ := call_ends hends db c supply
  exact answered_of_occupied hes h

end Database

/-- Nothing that happens over one connection changes a store that another has locked. -/
theorem Exchange.Happens.eq_of_occupied {e : Exchange} {c : Connection} {fresh : Fresh}
    {db db' : Database} (hhappens : e.Happens c fresh db db') (h : db.Occupied c) : db' = db := by
  cases e with
  | drew b => exact hhappens
  | wrote entry => exact hhappens
  | asked r a =>
    have hstate : (db.answer c fresh r).2 = db' := congrArg Prod.snd hhappens
    rw [← hstate]
    exact Database.answer_of_occupied h fresh r

/-! ## §2. Every promotion. -/

/-- An error that is passed on as it is. -/
theorem ServiceError.eq_of_ofRepository_eq {e e' : RepositoryError}
    (h : ofRepository e = .repository e') : e = e' := by
  cases e <;> cases h <;> rfl

namespace AliasService

/-- **What a promotion makes of its answers** `a 0`, `a 1`, …: it makes some `calls` and gives `v`. -/
structure Retried (p n : String) (a : Nat → Except RepositoryError Document) (calls : Nat)
    (asked : List ((r : Request) × r.Answer)) (log : List Log.Record)
    (v : Except ServiceError Document) : Prop where
  pos : 0 < calls
  le : calls ≤ promoteAttempts
  /-- The promotion is asked for so often, and nothing else is. -/
  asked_eq : asked = (List.range calls).map fun k => ⟨.promoteAlias p n, a k⟩
  /-- Another call follows upon a lock only. -/
  again : ∀ k, k + 1 < calls → Locked (a k)
  /-- The first answer that is no lock is the last one, and the result. -/
  first : ∀ k < promoteAttempts, ¬Locked (a k) → (∀ j < k, Locked (a j)) →
    calls = k + 1 ∧ v = (a k).mapError ServiceError.ofRepository
  /-- If there is none, the result is a broken invariant with the text of the last lock. -/
  exhausted : (∀ k < promoteAttempts, Locked (a k)) →
    calls = promoteAttempts ∧ ∃ e, a (promoteAttempts - 1) = .error e ∧
      v = .error (.invariantViolation ("primary alias update for document " ++ p ++
        " still conflicting after " ++ toString promoteAttempts ++ " attempts: " ++ e.message))
  /-- No lock is passed on as it is. -/
  hidden : ∀ e, v = .error (.repository e) → ¬e.OfLock
  /-- All calls but the last are warned of, by numbers from one, and the last record is no warning. -/
  warned : ∃ last, log = ((List.range (calls - 1)).map fun k => againRecord p (1 + k)) ++ [last] ∧
    ¬last.IsRetry

variable {p n : String} {a : Nat → Except RepositoryError Document} {k : Nat} {es : List Exchange}
  {v : Except ServiceError Document}

/-- An answer that is no lock is where the attempts stop, if they came so far. -/
theorem Stopped.eq_of_not_locked {attempt left j : Nat} (h : Stopped p n a attempt left k es v)
    (hj : ¬Locked (a j)) (hbefore : ∀ i < j, Locked (a i)) (hle : j ≤ left) : j = k := by
  rcases Nat.lt_trichotomy j k with hlt | heq | hgt
  · exact absurd (h.locked j hlt) hj
  · exact heq
  · -- they stopped before it, at a lock, with attempts left
    rcases h.value with ⟨hk, -⟩ | ⟨hk, -⟩
    · exact absurd (hbefore k hgt) hk
    · omega

/-- The result is passed on from an answer that is no lock, or tells of a broken invariant. -/
theorem Stopped.hidden {attempt left : Nat} (h : Stopped p n a attempt left k es v)
    {e : RepositoryError} (hv : v = .error (.repository e)) : ¬e.OfLock := by
  rcases h.value with ⟨hk, hvalue⟩ | ⟨-, e', -, -, hvalue⟩
  · rw [hv] at hvalue
    cases hanswer : a k with
    | ok d =>
      rw [hanswer] at hvalue
      cases hvalue
    | error e' =>
      rw [hanswer] at hvalue hk
      rw [← ServiceError.eq_of_ofRepository_eq (Except.error.inj hvalue).symm]
      exact fun hlock => hk (locked_error_iff.2 hlock)
  · rw [hv] at hvalue
    cases hvalue

/-- Attempts that stopped, and the record that the promotion ends with. -/
theorem Stopped.retried {last : Log.Record} (h : Stopped p n a 1 (promoteAttempts - 1) k es v)
    (hlast : ¬last.IsRetry) :
    Retried p n a (k + 1) ((es ++ [Exchange.wrote last]).filterMap Exchange.asked?)
      ((es ++ [Exchange.wrote last]).filterMap Exchange.record?) v where
  pos := Nat.succ_pos k
  le := Nat.succ_le_succ h.le
  asked_eq := by
    rw [List.filterMap_append, h.asked]
    exact List.append_nil _
  again := fun j hj => h.locked j (Nat.lt_of_succ_lt_succ hj)
  first := by
    intro j hj hfree hbefore
    obtain rfl := h.eq_of_not_locked hfree hbefore (Nat.le_sub_one_of_lt hj)
    rcases h.value with ⟨-, hvalue⟩ | ⟨-, e, ha, he, -⟩
    · exact ⟨rfl, hvalue⟩
    · exact absurd ⟨e, ha, he⟩ hfree
  exhausted := by
    intro hall
    rcases h.value with ⟨hk, -⟩ | ⟨rfl, e, ha, -, hvalue⟩
    · exact absurd (hall k (Nat.lt_of_succ_le (Nat.succ_le_succ h.le))) hk
    · exact ⟨rfl, e, ha, hvalue⟩
  hidden := fun e hv => h.hidden hv
  warned := by
    refine ⟨last, ?_, hlast⟩
    rw [List.filterMap_append, h.wrote]
    rfl

end AliasService

namespace ServiceCall

open AliasService

/-- **A promotion that meets locks tries a few times and changes nothing.**  Whoever answers it, whatever
the answers are, it makes of them what `Retried` says.  And as long as another connection holds a lock on
the store, it leaves the store as it is, alone or with others' calls and events between its requests. -/
theorem promotion_retry_is_bounded (reserved : ReservedNames) (p n : String) :
    (∀ {σ : Type} (answer : (r : Request) → σ → r.Answer × σ) (blocks : Nat → Block) (s : σ)
      (drawn : Nat),
      let o := Call.outcome answer blocks ((promote p n).dialogue reserved) s drawn
      let es := Call.transcript answer blocks ((promote p n).dialogue reserved) s drawn
      ∃ calls, Retried p n (attemptAnswer answer p n s) calls (es.filterMap Exchange.asked?) o.log
        o.value) ∧
    (∀ (db : Database) (c : Connection) (supply : Supply), db.Occupied c →
      (db.call c supply ((promote p n).dialogue reserved)).state = db) ∧
    ∀ (db : Database) (turns : List Turn) (i : Nat) (c : Connection)
      (rest : Dialogue (Except ServiceError Document)),
      let w := (Traffic.on db).after turns
      w.calls[i]? = some ⟨c, reserved, promote p n, rest⟩ →
        ∀ m ∈ w.history, m.IsOf i → m.before.Occupied c → m.after = m.before := by
  refine ⟨?_, fun db c supply h => Database.call_of_occupied h supply _, ?_⟩
  · intro σ answer blocks s drawn o es
    have hlog : o.log = es.filterMap Exchange.record? := Dialogue.log_run answer blocks s drawn
    have hanswered : Dialogue.Answered answer s es o.state :=
      Dialogue.answered_transcript answer blocks s drawn
    obtain ⟨tries, last, hes, hlast, htried⟩ :=
      Dialogue.ends_transcript answer blocks s drawn (tried_promote p n)
    have hes : es = tries ++ [.wrote last] := hes
    -- the answers are those of the attempts: the last record asks for nothing
    rw [hes] at hanswered
    obtain ⟨mid, htries, -⟩ := Dialogue.answered_append hanswered
    obtain ⟨k, hstopped, -⟩ := htried.stopped htries
    rw [hlog, hes]
    exact ⟨k + 1, hstopped.retried hlast⟩
  · intro db turns i c rest w hi m hm hof hlock
    have hsound : w.Sound db := Traffic.sound_after (Traffic.sound_on db) turns
    obtain ⟨d, hd, rfl⟩ := hof
    exact (hsound.happens hi hm hd).eq_of_occupied hlock

/-- A promotion finds the store locked once, and then that the document has no such alias. -/
def onceLocked : Script :=
  .ofResponses fun
    | .promoteAlias => [.failure (.ofEngine .locked), .failure (.aliasNotFound "d" "a")]
    | _ => [.missing]

/-- Somebody begins to write before a promotion makes its first request. -/
def besideWriter : List Turn :=
  [.event (.begin 2 .exclusive), .begin 1 ⟨[]⟩ (.promote "d" "a"),
   .go 0 ⟨⟨0⟩, 5⟩ (Vector.replicate 16 0)]

/-- The one promotion is asked for twice and warns once; the other one changes nothing. -/
theorem promotion_retry_is_bounded_onceLocked :
    let o := Call.outcome Script.answer (fun _ => Vector.replicate 16 0)
      ((promote "d" "a").dialogue ⟨[]⟩) onceLocked 0
    let held : Database := { Database.empty with held := some ⟨2, .exclusive, Tables.empty⟩ }
    (o.value = .error (.aliasNotFound "a") ∧
      ∃ last, o.log = [againRecord "d" 1, last] ∧ ¬last.IsRetry) ∧
    (held.call 1 Database.plainSupply ((promote "d" "a").dialogue ⟨[]⟩)).state = held ∧
    ∃ m ∈ ((Traffic.on Database.empty).after besideWriter).history, m.IsOf 0 ∧ m.before = held ∧
      m.after = held := by
  intro o held
  obtain ⟨hruns, hheld, htraffic⟩ := promotion_retry_is_bounded ⟨[]⟩ "d" "a"
  have hlock : held.Occupied 1 := Or.inl ⟨_, rfl, by decide⟩
  refine ⟨?_, hheld held 1 Database.plainSupply hlock, ?_⟩
  · obtain ⟨calls, h⟩ := hruns Script.answer (fun _ => Vector.replicate 16 0) onceLocked 0
    have hfirst : Locked (attemptAnswer Script.answer "d" "a" onceLocked 0) :=
      ⟨_, rfl, RepositoryError.isBusy_iff.1 rfl⟩
    have hsecond : ¬Locked (attemptAnswer Script.answer "d" "a" onceLocked 1) := by
      rintro ⟨e, he, cause, code, rfl, -⟩
      cases he
    obtain ⟨rfl, hvalue⟩ := h.first 1 (by decide) hsecond fun j hj => by
      rw [Nat.lt_one_iff.1 hj]
      exact hfirst
    exact ⟨hvalue, h.warned⟩
  · obtain ⟨m, hm, hdeed, hbefore⟩ : ∃ m ∈ ((Traffic.on Database.empty).after besideWriter).history,
        m.IsOf 0 ∧ m.before = held :=
      ⟨_, List.mem_cons_of_mem _ List.mem_cons_self, ⟨_, rfl, rfl⟩, rfl⟩
    refine ⟨m, hm, hdeed, hbefore, ?_⟩
    rw [← hbefore]
    exact htraffic Database.empty besideWriter 0 1 _ rfl m hm hdeed (hbefore ▸ hlock)

end ServiceCall

end Namebook
