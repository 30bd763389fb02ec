/-
  Namebook.Proofs.Repository.Paired
  ─────────────────────────────────
  **TWO STORES SIDE BY SIDE — work that fails alike or succeeds alike.**

  Two stores are asked at once.  Errors are compared by a relation `E`, values by a relation `V`, and
  it never happens that one side fails and the other does not.

    • `Work.paired_…` — one rule per building block of a transaction, on tables of its own each;
    • `Database.Twins` — two databases with the same locks;
    • `Twins.read`, `Twins.snapshot`, `Twins.write` — what their connections are answered.
-/
import Namebook.Proofs.Repository.Transaction

namespace Namebook

/-- **Two answers side by side**: both values are in `V`, or both errors in `E`. -/
def Paired {ε ε' α β : Type} (E : ε → ε' → Prop) (V : α → β → Prop) :
    Except ε α → Except ε' β → Prop
  | .ok a, .ok b => V a b
  | .error e, .error e' => E e e'
  | _, _ => False

section Paired

variable {ε ε' α α' β β' : Type} {E E' : ε → ε' → Prop} {V : α → β → Prop} {V' : α' → β' → Prop}

/-- Both sides fail, or both succeed. -/
theorem Paired.cases {x : Except ε α} {y : Except ε' β} (h : Paired E V x y) :
    (∃ e e', x = .error e ∧ y = .error e' ∧ E e e') ∨ ∃ a b, x = .ok a ∧ y = .ok b ∧ V a b := by
  cases x with
  | error e =>
    cases y with
    | error e' => exact Or.inl ⟨e, e', rfl, rfl, h⟩
    | ok b => exact absurd h id
  | ok a =>
    cases y with
    | error e' => exact absurd h id
    | ok b => exact Or.inr ⟨a, b, rfl, rfl, h⟩

theorem Paired.mono {W : α → β → Prop} {x : Except ε α} {y : Except ε' β} (h : Paired E V x y)
    (hE : ∀ e e', E e e' → E' e e') (hV : ∀ a b, V a b → W a b) : Paired E' W x y := by
  rcases h.cases with ⟨e, e', rfl, rfl, he⟩ | ⟨a, b, rfl, rfl, hab⟩
  · exact hE e e' he
  · exact hV a b hab

/-- Values that are in `V` are those that the two sides give. -/
theorem Paired.told {x : Except ε α} {y : Except ε' β} (h : Paired E V x y) :
    Paired E (fun a b => V a b ∧ x = .ok a ∧ y = .ok b) x y := by
  rcases h.cases with ⟨e, e', rfl, rfl, he⟩ | ⟨a, b, rfl, rfl, hab⟩
  · exact he
  · exact ⟨hab, rfl, rfl⟩

theorem Paired.symm {x : Except ε α} {y : Except ε' β} (h : Paired E V x y) :
    Paired (fun e e' => E e' e) (fun b a => V a b) y x := by
  rcases h.cases with ⟨e, e', rfl, rfl, he⟩ | ⟨a, b, rfl, rfl, hab⟩
  · exact he
  · exact hab

theorem Paired.trans {γ ε'' : Type} {F : ε' → ε'' → Prop} {W : β → γ → Prop} {x : Except ε α}
    {y : Except ε' β} {z : Except ε'' γ} (h : Paired E V x y) (h' : Paired F W y z) :
    Paired (fun e e'' => ∃ e', E e e' ∧ F e' e'') (fun a c => ∃ b, V a b ∧ W b c) x z := by
  rcases h.cases with ⟨e, e', rfl, rfl, he⟩ | ⟨a, b, rfl, rfl, hab⟩
  · cases z with
    | error e'' => exact ⟨e', he, h'⟩
    | ok c => exact absurd h' id
  · cases z with
    | error e'' => exact absurd h' id
    | ok c => exact ⟨b, hab, h'⟩

/-- Answers that are equal are alike. -/
theorem paired_of_eq {E : ε → ε → Prop} {V : α → α → Prop} {x y : Except ε α} (h : x = y)
    (hE : ∀ e, E e e) (hV : ∀ a, V a a) : Paired E V x y := by
  subst h
  cases x with
  | error e => exact hE e
  | ok a => exact hV a

/-- One step, then another that depends on it. -/
theorem paired_bind {x : Except ε α} {y : Except ε' β} {f : α → Except ε α'} {g : β → Except ε' β'}
    (hx : Paired E V x y) (hf : ∀ a b, V a b → Paired E V' (f a) (g b)) :
    Paired E V' (x >>= f) (y >>= g) := by
  rcases hx.cases with ⟨e, e', rfl, rfl, he⟩ | ⟨a, b, rfl, rfl, hab⟩
  · exact he
  · exact hf a b hab

/-- Errors may be translated. -/
theorem paired_mapError {δ δ' : Type} {D : δ → δ' → Prop} {g : ε → δ} {g' : ε' → δ'} {x : Except ε α}
    {y : Except ε' β} (h : Paired (fun e e' => D (g e) (g' e')) V x y) :
    Paired D V (x.mapError g) (y.mapError g') := by
  rcases h.cases with ⟨e, e', rfl, rfl, he⟩ | ⟨a, b, rfl, rfl, hab⟩
  · exact he
  · exact hab

/-- Two tests that come out the same. -/
theorem paired_ite {c c' : Bool} {x y : Except ε α} {x' y' : Except ε' β} (hc : c' = c)
    (hthen : Paired E V x x') (helse : c = false → Paired E V y y') :
    Paired E V (if c = true then x else y) (if c' = true then x' else y') := by
  subst hc
  cases c' with
  | true => exact hthen
  | false => exact helse rfl

end Paired

/-! ## §1. Work. -/

namespace Work

variable {α α' β β' : Type} {E : RepositoryError → RepositoryError → Prop}
  {V : α → Tables → β → Tables → Prop} {V' : α' → Tables → β' → Tables → Prop} {t t' : Tables}

/-- **Two pieces of work side by side**, each on tables of its own.  What failed work leaves behind
does not count. -/
def Paired (E : RepositoryError → RepositoryError → Prop) (V : α → Tables → β → Tables → Prop)
    (w : Work α) (t : Tables) (w' : Work β) (t' : Tables) : Prop :=
  Namebook.Paired E (fun a b => V a (w.runOn t).2 b (w'.runOn t').2) (w.runOn t).1 (w'.runOn t').1

theorem Paired.mono {W : α → Tables → β → Tables → Prop} {w : Work α} {w' : Work β}
    (h : Paired E V w t w' t') (hV : ∀ a s b s', V a s b s' → W a s b s') :
    Paired E W w t w' t' :=
  Namebook.Paired.mono h (fun _ _ he => he) fun a b => hV a _ b _

/-- What is in `V` is what the two sides give and leave. -/
theorem Paired.told {w : Work α} {w' : Work β} (h : Paired E V w t w' t') :
    Paired E (fun a s b s' => V a s b s' ∧ w.runOn t = (.ok a, s) ∧ w'.runOn t' = (.ok b, s'))
      w t w' t' :=
  (Namebook.Paired.told h).mono (fun _ _ he => he) fun _ _ hab =>
    ⟨hab.1, Prod.ext hab.2.1 rfl, Prod.ext hab.2.2 rfl⟩

theorem paired_query {q : Tables → Except RepositoryError α} {q' : Tables → Except RepositoryError β}
    (h : Namebook.Paired E (fun a b => V a t b t') (q t) (q' t')) :
    Paired E V (query q) t (query q') t' := h

theorem paired_throw {e e' : RepositoryError} (h : E e e') :
    Paired E V (throw e : Work α) t (throw e' : Work β) t' := h

theorem paired_change {V : Unit → Tables → Unit → Tables → Prop}
    {f f' : Tables → Except RepositoryError Tables}
    (h : Namebook.Paired E (fun s s' => V () s () s') (f t) (f' t')) :
    Paired E V (change f) t (change f') t' := by
  unfold Paired
  rw [runOn_change, runOn_change]
  rcases h.cases with ⟨e, e', hf, hf', he⟩ | ⟨s, s', hf, hf', hs⟩
  · rw [hf, hf']
    exact he
  · rw [hf, hf']
    exact hs

theorem paired_bind {x : Work α} {y : Work β} {f : α → Work α'} {g : β → Work β'}
    (hx : Paired E V x t y t') (hf : ∀ a s b s', V a s b s' → Paired E V' (f a) s (g b) s') :
    Paired E V' (x >>= f) t (y >>= g) t' := by
  unfold Paired at hx ⊢
  rw [runOn_bind, runOn_bind]
  generalize x.runOn t = o, y.runOn t' = o' at hx
  obtain ⟨r, s⟩ := o
  obtain ⟨r', s'⟩ := o'
  rcases Namebook.Paired.cases hx with ⟨e, e', rfl, rfl, he⟩ | ⟨a, b, rfl, rfl, hab⟩
  · exact he
  · exact hf a s b s' hab

/-- What a query gives is used on the same tables. -/
theorem paired_query_bind {q : Tables → Except RepositoryError α}
    {q' : Tables → Except RepositoryError β} {R : α → β → Prop} {f : α → Work α'} {g : β → Work β'}
    (h : Namebook.Paired E R (q t) (q' t')) (hf : ∀ a b, R a b → Paired E V' (f a) t (g b) t') :
    Paired E V' (query q >>= f) t (query q' >>= g) t' := by
  refine paired_bind (V := fun a s b s' => R a b ∧ s = t ∧ s' = t') (paired_query ?_) ?_
  · exact h.mono (fun _ _ he => he) fun a b hab => ⟨hab, rfl, rfl⟩
  · rintro a s b s' ⟨hab, rfl, rfl⟩
    exact hf a b hab

/-- A statement is followed by the rest, on the tables that it leaves. -/
theorem paired_change_bind {f f' : Tables → Except RepositoryError Tables}
    {R : Tables → Tables → Prop} {rest : Unit → Work α'} {rest' : Unit → Work β'}
    (h : Namebook.Paired E R (f t) (f' t'))
    (hrest : ∀ s s', R s s' → Paired E V' (rest ()) s (rest' ()) s') :
    Paired E V' (change f >>= rest) t (change f' >>= rest') t' :=
  paired_bind (V := fun _ s _ s' => R s s') (paired_change h) fun _ s _ s' hs => hrest s s' hs

/-- A test with the same outcome on both sides. -/
theorem paired_guard {c c' : Bool} {e e' : RepositoryError} {rest : Work α} {rest' : Work β}
    (hc : c = c') (he : c = true → E e e') (hrest : c = false → Paired E V rest t rest' t') :
    Paired E V (do if c = true then throw e
                   rest : Work α) t
      (do if c' = true then throw e'
          rest' : Work β) t' := by
  subst hc
  cases c with
  | true => exact he rfl
  | false => exact hrest rfl

end Work

/-! ## §2. Databases. -/

namespace Database

/-- **Two databases with the same locks**, whose tables are related: the committed ones, and those of
an open transaction. -/
structure Twins (R : Tables → Tables → Prop) (db db' : Database) : Prop where
  committed : R db.committed db'.committed
  held : Option.Rel (fun h h' => h.owner = h'.owner ∧ h.kind = h'.kind ∧ R h.working h'.working)
    db.held db'.held
  readers : db.readers = db'.readers

namespace Twins

variable {α β : Type} {R R' : Tables → Tables → Prop}
  {E : RepositoryError → RepositoryError → Prop} {V : α → β → Prop} {db db' : Database}
  {c : Connection}

theorem mono (h : Twins R db db') (hR : ∀ t t', R t t' → R' t t') : Twins R' db db' := by
  refine ⟨hR _ _ h.committed, ?_, h.readers⟩
  have hheld := h.held
  generalize db.held = x, db'.held = y at hheld
  cases hheld with
  | none => exact .none
  | some hh => exact .some ⟨hh.1, hh.2.1, hR _ _ hh.2.2⟩

theorem inTransaction (h : Twins R db db') (c : Connection) :
    db.inTransaction c = db'.inTransaction c := by
  obtain ⟨-, hheld, hreaders⟩ := h
  unfold Database.inTransaction
  generalize db.held = x, db'.held = y at hheld
  cases hheld with
  | none => rw [hreaders]
  | some hh =>
    dsimp only
    rw [hh.1, hreaders]

theorem view (h : Twins R db db') (c : Connection) : Paired Eq R (db.view c) (db'.view c) := by
  obtain ⟨hcommitted, hheld, -⟩ := h
  unfold Database.view
  generalize db.held = x, db'.held = y at hheld
  cases hheld with
  | none => exact hcommitted
  | @some held held' hh =>
    obtain ⟨howner, hkind, hworking⟩ := hh
    dsimp only
    rw [← howner, ← hkind]
    by_cases hc : held.owner = c
    · rw [if_pos hc, if_pos hc]
      exact hworking
    · rw [if_neg hc, if_neg hc]
      cases held.kind with
      | immediate => exact hcommitted
      | exclusive => exact rfl

/-- A query of one connection. -/
theorem read {q : Tables → Except RepositoryError α} {q' : Tables → Except RepositoryError β}
    (h : Twins R db db') (hE : ∀ e, E (.ofEngine e) (.ofEngine e))
    (hq : ∀ t t', R t t' → Paired E V (q t) (q' t')) :
    Paired E V (db.read c q) (db'.read c q') := by
  unfold Database.read
  rcases (h.view c).cases with ⟨e, e', hv, hv', he⟩ | ⟨t, t', hv, hv', hR⟩
  · rw [hv, hv', ← he]
    exact hE e
  · rw [hv, hv']
    exact hq t t' hR

theorem snapshot {q : Tables → Except RepositoryError α} {q' : Tables → Except RepositoryError β}
    (h : Twins R db db') (hE : ∀ e, E (.ofEngine e) (.ofEngine e))
    (hq : ∀ t t', R t t' → Paired E V (q t) (q' t')) :
    Paired E V (db.snapshot c q) (db'.snapshot c q') := by
  unfold Database.snapshot
  rw [← h.inTransaction c]
  split
  · exact hE .nestedTransaction
  · exact h.read hE hq

/-- Both write transactions begin, or neither. -/
theorem begin_immediate (h : Twins R db db') (c : Connection) :
    Paired Eq (fun _ _ => db.held = none ∧ db'.held = none) (db.begin c .immediate)
      (db'.begin c .immediate) := by
  have hin := h.inTransaction c
  obtain ⟨-, hheld, hreaders⟩ := h
  unfold Database.begin
  rw [← hin]
  by_cases hc : db.inTransaction c = true
  · rw [if_pos hc, if_pos hc]
    exact rfl
  · rw [if_neg hc, if_neg hc]
    generalize db.held = x, db'.held = y at hheld
    cases hheld with
    | some hh => exact rfl
    | none => exact ⟨rfl, rfl⟩

/-- **Two write transactions side by side.**  Both are refused and change nothing, or both commit what
their work has left.  A reader keeps both or neither from committing, if neither or both of them leave
the tables as they were. -/
theorem write {V : α → Tables → β → Tables → Prop} {body : Work α} {body' : Work β}
    (h : Twins R db db') (hE : ∀ e, E (.ofEngine e) (.ofEngine e))
    (hwork : Work.Paired E (fun a s b s' => V a s b s' ∧ (s = db.committed ↔ s' = db'.committed))
      body db.committed body' db'.committed) :
    (∃ e e', E e e' ∧ db.write c body = (.error e, db) ∧ db'.write c body' = (.error e', db')) ∨
      ∃ a s b s', V a s b s' ∧ db.held = none ∧
        db.write c body = (.ok a, { db with committed := s }) ∧
        db'.write c body' = (.ok b, { db' with committed := s' }) := by
  have hreaders := h.readers
  rw [write_eq, write_eq]
  unfold Work.Paired at hwork
  rcases (h.begin_immediate c).cases with ⟨e, e', hb, hb', he⟩ | ⟨begun, begun', hb, hb', hfree, -⟩
  · rw [hb, hb', ← he]
    exact Or.inl ⟨_, _, hE e, rfl, rfl⟩
  · rw [hb, hb']
    dsimp only
    generalize body.runOn db.committed = o, body'.runOn db'.committed = o' at hwork
    obtain ⟨r, s⟩ := o
    obtain ⟨r', s'⟩ := o'
    rcases hwork.cases with ⟨e, e', rfl, rfl, he⟩ | ⟨a, b, rfl, rfl, hV, hsame⟩
    · exact Or.inl ⟨e, e', he, rfl, rfl⟩
    · dsimp only at hV hsame ⊢
      -- both have to wait for the readers, or neither
      have hwaits : (db.readers ≠ [] ∧ s ≠ db.committed) ↔
          (db'.readers ≠ [] ∧ s' ≠ db'.committed) := by
        rw [hreaders, ne_eq, ne_eq, hsame]
      by_cases hwait : db.readers ≠ [] ∧ s ≠ db.committed
      · rw [if_pos hwait, if_pos (hwaits.1 hwait)]
        exact Or.inl ⟨_, _, hE .locked, rfl, rfl⟩
      · rw [if_neg hwait, if_neg fun h' => hwait (hwaits.2 h')]
        exact Or.inr ⟨a, s, b, s', hV, hfree, rfl, rfl⟩

end Twins

end Database

end Namebook
