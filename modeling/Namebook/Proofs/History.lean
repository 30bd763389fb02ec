/-
  Namebook.Proofs.History
  ───────────────────────
  **RUNS OF MANY CLIENTS — what holds of every state that they reach.**

  An event is one step of one client: a service call, a request, a statement of another program, or
  a step of a transaction.  Events come in any order, over any connections, and may be refused.

    • `Event.Writes` — which tables an event can turn into which;
    • `Event.steps_apply` — every event is one of seven moves of the committed tables and the open
      working copy, the only place that looks at locks;
    • `holds_after` — what a new store has and every write keeps, all reachable tables have.
-/
import Namebook.Proofs.Service.Proper

namespace Namebook

/-! ## §1. Events. -/

/-- One step of one client. -/
inductive Event where
  /-- A service call; the service has its own reserved names. -/
  | call (c : Connection) (reserved : ReservedNames) (supply : Supply) (s : ServiceCall)
  | request (c : Connection) (fresh : Fresh) (r : Request)
  /-- A statement of another program, under the rules that it has switched on. -/
  | change (c : Connection) (rules : Rules) (ch : RowChange)
  | begin (c : Connection) (kind : LockKind)
  | beginRead (c : Connection)
  | commit (c : Connection)
  | rollback (c : Connection)

/-- The state after a step that may be refused. -/
def Database.orStay (db : Database) : Except EngineError Database → Database
  | .ok db' => db'
  | .error _ => db

namespace Event

/-- **The state after an event.** -/
def apply : Event → Database → Database
  | call c reserved supply s, db => (db.call c supply (s.dialogue reserved)).state
  | request c fresh r, db => (db.answer c fresh r).2
  | change c rules ch, db => (db.execute c rules ch).2
  | begin c kind, db => db.orStay (db.begin c kind)
  | beginRead c, db => db.orStay (db.beginRead c)
  | commit c, db => db.orStay (db.commit c)
  | rollback c, db => db.orStay (db.rollback c)

/-- The tables that a granted request turns into others. -/
def Grants (fresh : Fresh) (r : Request) (t t' : Tables) : Prop :=
  ∃ w d, r.work? fresh = some w ∧ w.runOn t = (.ok d, t')

/-- **What an event can write.** -/
def Writes : Event → Tables → Tables → Prop
  | call _ reserved supply _, t, t' =>
    ∃ r k, r.Proper reserved ∧ Grants (supply.fresh k) r t t'
  | request _ fresh r, t, t' => Grants fresh r t t'
  | change _ rules ch, t, t' =>
    ∃ n rules', (rules' = rules ∨ rules' = { rules with references := true }) ∧
      t.change rules' ch = .ok (t', n)
  | _, _, _ => False

end Event

namespace Database

/-- The state after some events, the first one first. -/
def after (db : Database) (events : List Event) : Database :=
  events.foldl (fun db e => e.apply db) db

/-- The working copy of the open write transaction. -/
def working? (db : Database) : Option Tables :=
  db.held.map (·.working)

/-- The tables as the next writer finds them. -/
def current (db : Database) : Tables :=
  db.working?.getD db.committed

/-- What all tables of a store have, the committed ones and an open working copy. -/
def Holds (P : Tables → Prop) (db : Database) : Prop :=
  P db.committed ∧ ∀ t ∈ db.working?, P t

end Database

/-! ## §2. Moves. -/

/-- A step from committed tables `t` and perhaps a working copy `w`, where `W` says what may be
written. -/
inductive Moves (W : Tables → Tables → Prop) : Tables → Option Tables → Tables → Option Tables → Prop
    where
  | stay (t : Tables) (w : Option Tables) : Moves W t w t w
  | write {t t' : Tables} : W t t' → Moves W t none t' none
  | begin (t : Tables) : Moves W t none t (some t)
  /-- A write transaction begins with its first write. -/
  | beginWrite {t t' : Tables} : W t t' → Moves W t none t (some t')
  | stage {t w w' : Tables} : W w w' → Moves W t (some w) t (some w')
  | commit (t w : Tables) : Moves W t (some w) w none
  | rollback (t w : Tables) : Moves W t (some w) t none

theorem Moves.mono {W W' : Tables → Tables → Prop} {t t' : Tables} {w w' : Option Tables}
    (h : Moves W t w t' w') (hW : ∀ s s', W s s' → W' s s') : Moves W' t w t' w' := by
  cases h with
  | stay => exact .stay _ _
  | write hw => exact .write (hW _ _ hw)
  | begin => exact .begin _
  | beginWrite hw => exact .beginWrite (hW _ _ hw)
  | stage hw => exact .stage (hW _ _ hw)
  | commit => exact .commit _ _
  | rollback => exact .rollback _ _

namespace Database

/-- A step of a store whose effect on the tables is a move. -/
abbrev Steps (W : Tables → Tables → Prop) (db db' : Database) : Prop :=
  Moves W db.committed db.working? db'.committed db'.working?

theorem steps_refl (W : Tables → Tables → Prop) (db : Database) : Steps W db db :=
  .stay _ _

/-- A granted change of a request is a write on the committed tables. -/
theorem steps_answer (db : Database) (c : Connection) (fresh : Fresh) (r : Request) :
    Steps (Event.Grants fresh r) db (db.answer c fresh r).2 := by
  rcases answer_cases db c fresh r with h | ⟨w, d, t, hwork, hheld, hrun, h⟩
  · rw [h]
    exact steps_refl _ db
  · rw [h]
    show Moves _ db.committed (db.held.map (·.working)) t (db.held.map (·.working))
    rw [hheld]
    exact .write ⟨w, d, hwork, hrun⟩

theorem steps_call (db : Database) (c : Connection) (reserved : ReservedNames) (supply : Supply)
    (s : ServiceCall) :
    Steps (Event.call c reserved supply s).Writes db
      (db.call c supply (s.dialogue reserved)).state := by
  rcases call_cases (s.settled_dialogue reserved) (s.proper_dialogue reserved) with
    h | ⟨r, k, hproper, h⟩
  · rw [h]
    exact steps_refl _ db
  · rw [h]
    have hstep := steps_answer db c (supply.fresh k) r
    exact Moves.mono hstep fun t t' hw => ⟨r, k, hproper, hw⟩

/-- A statement writes the working copy of its own transaction, or the committed tables. -/
theorem steps_execute (db : Database) (c : Connection) (rules : Rules) (ch : RowChange) :
    Steps (Event.change c rules ch).Writes db (db.execute c rules ch).2 := by
  obtain ⟨committed, held, readers⟩ := db
  unfold execute
  cases held with
  | some h =>
    unfold upgrade executeHeld
    dsimp only
    by_cases howner : h.owner = c
    · rw [if_pos howner]
      cases hch : h.working.change { rules with references := true } ch with
      | error e => exact steps_refl _ _
      | ok r =>
        obtain ⟨t, n⟩ := r
        simp only [Database.stage, howner, if_true]
        exact .stage ⟨n, _, Or.inr rfl, hch⟩
    · rw [if_neg howner]
      exact steps_refl _ _
  | none =>
    by_cases hreads : readers.contains c = true
    · -- its read transaction has become a write transaction of its own
      unfold upgrade executeHeld
      dsimp only
      rw [if_pos hreads]
      dsimp only
      rw [if_pos rfl]
      cases hch : committed.change { rules with references := true } ch with
      | error e => exact .begin committed
      | ok r =>
        obtain ⟨t, n⟩ := r
        simp only [Database.stage, if_true]
        exact .beginWrite ⟨n, _, Or.inr rfl, hch⟩
    · unfold upgrade executeHeld
      dsimp only
      rw [if_neg hreads]
      dsimp only
      cases hch : committed.change rules ch with
      | error e => exact steps_refl _ _
      | ok r =>
        obtain ⟨t, n⟩ := r
        dsimp only
        split
        · exact steps_refl _ _
        · exact .write ⟨n, _, Or.inl rfl, hch⟩

theorem steps_begin (W : Tables → Tables → Prop) (db : Database) (c : Connection)
    (kind : LockKind) : Steps W db (db.orStay (db.begin c kind)) := by
  obtain ⟨committed, held, readers⟩ := db
  unfold begin
  split
  · exact steps_refl _ _
  · cases held with
    | some h => exact steps_refl _ _
    | none =>
      dsimp only
      split
      · exact steps_refl _ _
      · exact .begin committed

theorem steps_beginRead (W : Tables → Tables → Prop) (db : Database) (c : Connection) :
    Steps W db (db.orStay (db.beginRead c)) := by
  obtain ⟨committed, held, readers⟩ := db
  unfold beginRead
  split
  · exact steps_refl _ _
  · cases held with
    | none => exact .stay _ _
    | some h =>
      dsimp only
      split
      · exact steps_refl _ _
      · exact .stay _ _

theorem steps_commit (W : Tables → Tables → Prop) (db : Database) (c : Connection) :
    Steps W db (db.orStay (db.commit c)) := by
  obtain ⟨committed, held, readers⟩ := db
  unfold commit
  cases held with
  | none => exact .stay _ _
  | some h =>
    dsimp only
    split
    · split
      · exact steps_refl _ _
      · exact .commit _ _
    · exact .stay _ _

theorem steps_rollback (W : Tables → Tables → Prop) (db : Database) (c : Connection) :
    Steps W db (db.orStay (db.rollback c)) := by
  obtain ⟨committed, held, readers⟩ := db
  unfold rollback
  cases held with
  | none =>
    dsimp only
    split
    · exact .stay _ _
    · exact steps_refl _ _
  | some h =>
    dsimp only
    split
    · exact .rollback _ _
    · split
      · exact .stay _ _
      · exact steps_refl _ _

end Database

/-- **Every event is a move.** -/
theorem Event.steps_apply (e : Event) (db : Database) : db.Steps e.Writes (e.apply db) := by
  cases e with
  | call c reserved supply s => exact db.steps_call c reserved supply s
  | request c fresh r => exact db.steps_answer c fresh r
  | change c rules ch => exact db.steps_execute c rules ch
  | begin c kind => exact db.steps_begin _ c kind
  | beginRead c => exact db.steps_beginRead _ c
  | commit c => exact db.steps_commit _ c
  | rollback c => exact db.steps_rollback _ c

/-! ## §3. Invariants of runs. -/

/-- A move keeps what every write keeps. -/
theorem Moves.holds {W : Tables → Tables → Prop} {P : Tables → Prop} {t t' : Tables}
    {w w' : Option Tables} (h : Moves W t w t' w') (hW : ∀ s s', P s → W s s' → P s')
    (hP : P t ∧ ∀ u ∈ w, P u) : P t' ∧ ∀ u ∈ w', P u := by
  obtain ⟨hcommitted, hworking⟩ := hP
  cases h with
  | stay => exact ⟨hcommitted, hworking⟩
  | write hw => exact ⟨hW _ _ hcommitted hw, fun u hu => by cases hu⟩
  | begin =>
    refine ⟨hcommitted, fun u hu => ?_⟩
    cases hu
    exact hcommitted
  | beginWrite hw =>
    refine ⟨hcommitted, fun u hu => ?_⟩
    cases hu
    exact hW _ _ hcommitted hw
  | stage hw =>
    refine ⟨hcommitted, fun u hu => ?_⟩
    cases hu
    exact hW _ _ (hworking _ rfl) hw
  | commit => exact ⟨hworking _ rfl, fun u hu => by cases hu⟩
  | rollback => exact ⟨hcommitted, fun u hu => by cases hu⟩

namespace Database

theorem Holds.mono {P P' : Tables → Prop} {db : Database} (h : db.Holds P)
    (hP : ∀ t, P t → P' t) : db.Holds P' :=
  ⟨hP _ h.1, fun t ht => hP t (h.2 t ht)⟩

theorem holds_empty {P : Tables → Prop} (h : P Tables.empty) : empty.Holds P :=
  ⟨h, fun u hu => by cases hu⟩

/-- **What the tables have at first and every write keeps, they have after any events.** -/
theorem holds_after {P : Tables → Prop} {db : Database} {events : List Event} (h : db.Holds P)
    (hW : ∀ e ∈ events, ∀ t t', P t → e.Writes t t' → P t') : (db.after events).Holds P := by
  induction events generalizing db with
  | nil => exact h
  | cons e events ih =>
    have hstep : (e.apply db).Holds P :=
      (e.steps_apply db).holds (hW e List.mem_cons_self) h
    exact ih hstep fun e' he' => hW e' (List.mem_cons_of_mem e he')

end Database

/-- **A step relates the tables that writers find before and after it**, unless it takes back what
was written. -/
theorem Moves.current {W R : Tables → Tables → Prop} {t t' : Tables} {w w' : Option Tables}
    (h : Moves W t w t' w') (hrefl : ∀ s, R s s) (hW : ∀ s s', W s s' → R s s') :
    R (w.getD t) (w'.getD t') ∨ t' = t ∧ w' = none := by
  cases h with
  | stay => exact Or.inl (hrefl _)
  | write hw => exact Or.inl (hW _ _ hw)
  | begin => exact Or.inl (hrefl _)
  | beginWrite hw => exact Or.inl (hW _ _ hw)
  | stage hw => exact Or.inl (hW _ _ hw)
  | commit => exact Or.inl (hrefl _)
  | rollback => exact Or.inr ⟨rfl, rfl⟩

end Namebook
