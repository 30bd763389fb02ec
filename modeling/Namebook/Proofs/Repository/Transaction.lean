/-
  Namebook.Proofs.Repository.Transaction
  ──────────────────────────────────────
  **A REQUEST CHANGES ALL OR NOTHING — the calculus of transactions.**

    • `Work.runOn_…` — what each building block of a transaction gives and leaves behind;
    • `Database.write_eq` — a write transaction in one equation: work that succeeds replaces the
      committed tables, anything else leaves the whole database as it was, open transactions of
      any connection included;
    • `Database.answer_of_error` — a refused request changes nothing;
    • `Database.answer_cases` — a request changes nothing or commits the tables that its work left;
    • `Database.Reads` — what a connection reads that has no transaction of its own.
-/
import Namebook.Repository.Answer

namespace Namebook

/-! ## §1. Work. -/

namespace Work

variable {α β : Type}

theorem runOn_throw (e : RepositoryError) (t : Tables) :
    (throw e : Work α).runOn t = (.error e, t) := rfl

theorem runOn_query (q : Tables → Except RepositoryError α) (t : Tables) :
    (query q).runOn t = (q t, t) := rfl

theorem runOn_change (f : Tables → Except RepositoryError Tables) (t : Tables) :
    (change f).runOn t =
      match f t with
      | .ok t' => (.ok (), t')
      | .error e => (.error e, t) := rfl

theorem runOn_bind (x : Work α) (f : α → Work β) (t : Tables) :
    (x >>= f).runOn t =
      match x.runOn t with
      | (.ok a, t') => (f a).runOn t'
      | (.error e, t') => (.error e, t') := by
  unfold runOn
  rw [ExceptT.run_bind, StateT.run_bind]
  rcases (ExceptT.run x).run t with ⟨⟨e⟩ | ⟨a⟩, t'⟩ <;> rfl

/-- Work in two parts succeeds exactly if both parts do. -/
theorem runOn_bind_eq_ok_iff {x : Work α} {f : α → Work β} {t t'' : Tables} {b : β} :
    (x >>= f).runOn t = (.ok b, t'') ↔
      ∃ a t', x.runOn t = (.ok a, t') ∧ (f a).runOn t' = (.ok b, t'') := by
  rw [runOn_bind]
  constructor
  · intro h
    cases hx : x.runOn t with
    | mk r t' =>
      rw [hx] at h
      cases r with
      | ok a => exact ⟨a, t', rfl, h⟩
      | error e => cases h
  · rintro ⟨a, t', hx, hf⟩
    rw [hx]
    exact hf

theorem runOn_query_eq_ok_iff {q : Tables → Except RepositoryError α} {t t' : Tables} {a : α} :
    (query q).runOn t = (.ok a, t') ↔ q t = .ok a ∧ t = t' := by
  rw [runOn_query, Prod.mk.injEq]

theorem runOn_change_eq_ok_iff {f : Tables → Except RepositoryError Tables} {t t' : Tables}
    {u : Unit} : (change f).runOn t = (.ok u, t') ↔ f t = .ok t' := by
  rw [runOn_change]
  cases f t with
  | error e =>
    constructor
    · intro h; cases h
    · intro h; cases h
  | ok s =>
    constructor
    · intro h
      injection h with _ h
      rw [h]
    · intro h
      injection h with h
      rw [h]

theorem runOn_throw_ne_ok {e : RepositoryError} {t t' : Tables} {a : α} :
    (throw e : Work α).runOn t ≠ (.ok a, t') := by
  rw [runOn_throw]
  intro h
  cases h

/-- Work goes on with what a query gives. -/
theorem runOn_query_bind {q : Tables → Except RepositoryError α} {f : α → Work β} {t : Tables}
    {a : α} (h : q t = .ok a) : (query q >>= f).runOn t = (f a).runOn t := by
  rw [runOn_bind, runOn_query, h]

/-- Work ends where a query fails. -/
theorem runOn_query_bind_of_error {q : Tables → Except RepositoryError α} {f : α → Work β}
    {t : Tables} {e : RepositoryError} (h : q t = .error e) :
    (query q >>= f).runOn t = (.error e, t) := by
  rw [runOn_bind, runOn_query, h]

/-- A test that is passed goes on with the rest. -/
theorem runOn_guard_eq_ok_iff {p : Bool} {e : RepositoryError} {rest : Work α} {t t' : Tables}
    {a : α} :
    (do if p = true then throw e
        rest : Work α).runOn t = (.ok a, t') ↔ p = false ∧ rest.runOn t = (.ok a, t') := by
  cases p
  · exact ⟨fun h => ⟨rfl, h⟩, fun h => h.2⟩
  · constructor
    · intro h; exact absurd h runOn_throw_ne_ok
    · intro h; cases h.1

end Work

namespace Database

/-! ## §2. Write transactions. -/

variable {db : Database} {c : Connection}

/-- A write transaction begins if no write transaction is open and the connection does not read. -/
theorem begin_immediate_eq_ok_iff {begun : Database} :
    db.begin c .immediate = .ok begun ↔
      db.held = none ∧ c ∉ db.readers ∧
        begun = { db with held := some ⟨c, .immediate, db.committed⟩ } := by
  unfold begin inTransaction
  obtain ⟨committed, held, readers⟩ := db
  cases held with
  | some h =>
    constructor
    · intro heq
      simp only at heq
      split at heq <;> cases heq
    · rintro ⟨hnone, -⟩
      cases hnone
  | none =>
    by_cases hc : c ∈ readers
    · simp [hc]
    · simp [hc, eq_comm]

/-- **A write transaction in one equation.** -/
theorem write_eq {α : Type} (db : Database) (c : Connection) (body : Work α) :
    db.write c body =
      match db.begin c .immediate with
      | .error e => (.error (.ofEngine e), db)
      | .ok _ =>
        match body.runOn db.committed with
        | (.error e, _) => (.error e, db)
        | (.ok a, t) =>
          if db.readers ≠ [] ∧ t ≠ db.committed then (.error (.ofEngine .locked), db)
          else (.ok a, { db with committed := t }) := by
  unfold write
  cases hbegin : db.begin c .immediate with
  | error e => rfl
  | ok begun =>
    obtain ⟨hheld, -, rfl⟩ := begin_immediate_eq_ok_iff.1 hbegin
    obtain ⟨committed, held, readers⟩ := db
    simp only at hheld
    subst hheld
    -- the work runs on the copy that the transaction holds
    simp only [work, view, stage, if_true]
    cases hrun : body.runOn committed with
    | mk r t =>
      cases r with
      | error e => simp [abandon, rollback]
      | ok a =>
        -- a reader only stands in the way of a commit that changes something
        by_cases hwait : readers ≠ [] ∧ t ≠ committed
        · simp [commit, hwait, abandon, rollback]
        · simp [commit, hwait]

theorem write_of_error {α : Type} {body : Work α} {e : RepositoryError}
    (h : (db.write c body).1 = .error e) : (db.write c body).2 = db := by
  rw [write_eq] at h ⊢
  split at h
  · rfl
  · split at h
    · rfl
    · split at h
      next hwait => rw [if_pos hwait]
      next => cases h

/-- **A write transaction that succeeds** worked on the committed tables, and what it left is
committed now. -/
theorem write_of_ok {α : Type} {body : Work α} {a : α} (h : (db.write c body).1 = .ok a) :
    ∃ t, db.held = none ∧ body.runOn db.committed = (.ok a, t) ∧
      (db.write c body).2 = { db with committed := t } := by
  rw [write_eq] at h ⊢
  split at h
  · cases h
  next begun hbegin =>
  obtain ⟨hheld, -, -⟩ := begin_immediate_eq_ok_iff.1 hbegin
  split at h
  · cases h
  next a' t hrun =>
  split at h
  · cases h
  next hfree =>
  injection h with h
  subst h
  refine ⟨t, hheld, hrun, ?_⟩
  rw [if_neg hfree]

/-- A write transaction succeeds outside of any other write transaction, and not on a connection that
reads. -/
theorem free_of_write {α : Type} {body : Work α} {a : α} (h : (db.write c body).1 = .ok a) :
    db.held = none ∧ c ∉ db.readers := by
  rw [write_eq] at h
  split at h
  · cases h
  next begun hbegin =>
  obtain ⟨hheld, hreads, -⟩ := begin_immediate_eq_ok_iff.1 hbegin
  exact ⟨hheld, hreads⟩

/-- Without any open transaction the answer is that of the work. -/
theorem write_of_free {α : Type} (hheld : db.held = none) (hreaders : db.readers = [])
    (body : Work α) :
    db.write c body =
      match body.runOn db.committed with
      | (.error e, _) => (.error e, db)
      | (.ok a, t) => (.ok a, { db with committed := t }) := by
  have hbegin : db.begin c .immediate
      = .ok { db with held := some ⟨c, .immediate, db.committed⟩ } :=
    begin_immediate_eq_ok_iff.2 ⟨hheld, by rw [hreaders]; exact List.not_mem_nil, rfl⟩
  rw [write_eq, hbegin]
  simp [hreaders]

/-! ## §3. Requests. -/

end Database

/-- The work of a request that changes something. -/
def Request.work? (fresh : Fresh) : Request → Option (Work Document)
  | createAlias p n => some (Work.createAlias fresh p n)
  | deleteAlias p n => some (Work.deleteAlias fresh p n)
  | promoteAlias p n => some (Work.promoteAlias fresh p n)
  | createDocument p initial => some (Work.createDocument fresh p initial)
  | _ => none

/-- Whether a request changes something. -/
def Request.isChange : Request → Bool
  | createAlias _ _ => true
  | deleteAlias _ _ => true
  | promoteAlias _ _ => true
  | createDocument _ _ => true
  | _ => false

namespace Database

variable {db : Database} {c : Connection} {fresh : Fresh}

/-- **A refused request changes nothing at all.** -/
theorem answer_of_error {r : Request} {e : RepositoryError}
    (h : (db.answer c fresh r).1 = .error e) : (db.answer c fresh r).2 = db := by
  cases r with
  | findAliasByName n => rfl
  | createAlias p n => exact write_of_error h
  | deleteAlias p n => exact write_of_error h
  | promoteAlias p n => exact write_of_error h
  | createDocument p initial => exact write_of_error h
  | findByPublicId p => rfl
  | findByAlias n => rfl

/-- A look-up changes nothing. -/
theorem answer_of_lookup {r : Request} (h : r.isChange = false) :
    (db.answer c fresh r).2 = db := by
  cases r with
  | findAliasByName n => rfl
  | createAlias p n => cases h
  | deleteAlias p n => cases h
  | promoteAlias p n => cases h
  | createDocument p initial => cases h
  | findByPublicId p => rfl
  | findByAlias n => rfl

/-- What a write transaction may do to a database. -/
theorem write_cases (db : Database) (c : Connection) (body : Work Document) :
    (db.write c body).2 = db ∨
      ∃ d t, db.held = none ∧ body.runOn db.committed = (.ok d, t) ∧
        (db.write c body).2 = { db with committed := t } := by
  cases hanswer : (db.write c body).1 with
  | error e => exact Or.inl (write_of_error hanswer)
  | ok d =>
    obtain ⟨t, h⟩ := write_of_ok hanswer
    exact Or.inr ⟨d, t, h⟩

/-- A change is its work in a write transaction. -/
theorem answer_of_work {r : Request} {w : Work Document} (h : r.work? fresh = some w) :
    (db.answer c fresh r).2 = (db.write c w).2 := by
  cases r with
  | findAliasByName n => cases h
  | createAlias p n => cases h; rfl
  | deleteAlias p n => cases h; rfl
  | promoteAlias p n => cases h; rfl
  | createDocument p initial => cases h; rfl
  | findByPublicId p => cases h
  | findByAlias n => cases h

theorem isChange_of_work? {r : Request} (h : r.work? fresh = none) : r.isChange = false := by
  cases r <;> first | rfl | cases h

/-- **A request changes nothing, or commits the tables that its work left.** -/
theorem answer_cases (db : Database) (c : Connection) (fresh : Fresh) (r : Request) :
    (db.answer c fresh r).2 = db ∨
      ∃ w d t, r.work? fresh = some w ∧ db.held = none ∧ w.runOn db.committed = (.ok d, t) ∧
        (db.answer c fresh r).2 = { db with committed := t } := by
  cases hwork : r.work? fresh with
  | none => exact Or.inl (answer_of_lookup (isChange_of_work? hwork))
  | some w =>
    rw [answer_of_work hwork]
    rcases write_cases db c w with h | ⟨d, t, h⟩
    · exact Or.inl h
    · exact Or.inr ⟨w, d, t, rfl, h⟩

/-! ## §4. Readers. -/

variable {t : Tables}

/-- A query succeeds on the tables that the connection sees. -/
theorem read_eq_ok_iff {α : Type} {query : Tables → Except RepositoryError α} {a : α} :
    db.read c query = .ok a ↔ ∃ t, db.view c = .ok t ∧ query t = .ok a := by
  unfold read
  cases db.view c with
  | error e =>
    constructor
    · intro h; cases h
    · rintro ⟨t, ht, -⟩; cases ht
  | ok t =>
    constructor
    · intro h; exact ⟨t, rfl, h⟩
    · rintro ⟨t', ht, h⟩
      cases ht
      exact h

/-- A connection without a transaction of its own reads some tables. -/
structure Reads (db : Database) (c : Connection) (t : Tables) : Prop where
  view : db.view c = .ok t
  outside : db.inTransaction c = false

namespace Reads

theorem read_eq {α : Type} (h : db.Reads c t) (query : Tables → Except RepositoryError α) :
    db.read c query = query t := by
  unfold read
  rw [h.view]

theorem snapshot_eq {α : Type} (h : db.Reads c t) (query : Tables → Except RepositoryError α) :
    db.snapshot c query = query t := by
  unfold snapshot
  rw [h.outside]
  exact h.read_eq query

/-- Outside of any transaction of its own a connection reads what is committed. -/
theorem eq_committed (h : db.Reads c t) : t = db.committed := by
  obtain ⟨hview, houtside⟩ := h
  unfold Database.view at hview
  unfold inTransaction at houtside
  cases hheld : db.held with
  | none =>
    rw [hheld] at hview
    injection hview with hview
    exact hview.symm
  | some held =>
    rw [hheld] at hview houtside
    have howner : held.owner ≠ c := by
      intro howner
      simp [howner] at houtside
    simp only [if_neg howner] at hview
    split at hview
    · injection hview with hview
      exact hview.symm
    · cases hview

/-- Between transactions everybody reads what is committed. -/
theorem of_free (hheld : db.held = none) (hreads : c ∉ db.readers) : db.Reads c db.committed where
  view := by
    unfold Database.view
    rw [hheld]
  outside := by
    unfold inTransaction
    rw [hheld]
    simpa using hreads

/-- Who is granted a snapshot reads the committed tables. -/
theorem of_snapshot {α : Type} {query : Tables → Except RepositoryError α} {a : α}
    (h : db.snapshot c query = .ok a) : ∃ t, db.Reads c t ∧ query t = .ok a := by
  unfold snapshot at h
  split at h
  · cases h
  next houtside =>
  obtain ⟨t, hview, hquery⟩ := read_eq_ok_iff.1 h
  exact ⟨t, ⟨hview, Bool.eq_false_iff.2 houtside⟩, hquery⟩

theorem of_findByPublicId {p : String} {found : Option Document}
    (h : (db.answer c fresh (.findByPublicId p)).1 = .ok found) :
    ∃ t, db.Reads c t ∧ Rows.loadDocument t p = .ok found :=
  of_snapshot h

theorem answer_findAliasByName (h : db.Reads c t) (n : String) :
    db.answer c fresh (.findAliasByName n) = (Rows.findAlias t n, db) := by
  show (db.read c (Rows.findAlias · n), db) = _
  rw [h.read_eq]

theorem answer_findByPublicId (h : db.Reads c t) (p : String) :
    db.answer c fresh (.findByPublicId p) = (Rows.loadDocument t p, db) := by
  show (db.snapshot c (Rows.loadDocument · p), db) = _
  rw [h.snapshot_eq]

theorem answer_findByAlias (h : db.Reads c t) (n : String) :
    db.answer c fresh (.findByAlias n) = (Rows.findByAlias t n, db) := by
  show (db.snapshot c (Rows.findByAlias · n), db) = _
  rw [h.snapshot_eq]

end Reads

end Database

end Namebook
