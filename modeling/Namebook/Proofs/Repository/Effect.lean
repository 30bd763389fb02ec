/-
  Namebook.Proofs.Repository.Effect
  ─────────────────────────────────
  **WHAT A GRANTED REQUEST HAS WRITTEN.**

  Each of the four changes is inverted once: `…_eq_ok_iff` says under which conditions it is granted
  and which tables it then leaves, built from the closed forms of single statements.  Every fact
  about granted changes is read off these four lemmas.

    • `Rewritten` — the forms of which the tables left by a change are made;
    • `kept_of_granted` — what every form keeps, a granted change keeps.
-/
import Namebook.Proofs.Store.RowChange
import Namebook.Proofs.Repository.Transaction

namespace Namebook

/-! ## §1. The steps of a change. -/

namespace Rows

/-- The row that an alias is stored as. -/
def aliasRow (a : Alias) (position : Int64) : AliasRow :=
  { id := a.id.render
    name := a.name
    document := a.document
    flag := if a.primary then 1 else 0
    position }

theorem mapError_eq_ok_iff {ε ε' α : Type} {f : ε → ε'} {e : Except ε α} {a : α} :
    e.mapError f = .ok a ↔ e = .ok a := by
  cases e with
  | error e =>
    constructor
    · intro h; cases h
    · intro h; cases h
  | ok b =>
    constructor
    · intro h; injection h with h; rw [h]
    · intro h; injection h with h; rw [h]; rfl

theorem insertAlias_eq_ok_iff {a : Alias} {position : Int64} {t t' : Tables} :
    insertAlias a position t = .ok t' ↔
      t.Admits (aliasRow a position) ∧ t' = t.withAlias (aliasRow a position) := by
  unfold insertAlias
  rw [mapError_eq_ok_iff]
  exact Tables.insertAlias_eq_ok_iff

theorem insertDocument_eq_ok_iff {p : String} {now : Int64} {t t' : Tables} :
    insertDocument p now t = .ok t' ↔
      (∀ d ∈ t.documents, d.publicId ≠ p) ∧ (∀ n ∈ t.names, n.name ≠ p) ∧
        t' = t.withDocument ⟨p, 0, now, now⟩ := by
  unfold insertDocument
  rw [mapError_eq_ok_iff]
  exact Tables.insertDocument_eq_ok_iff

theorem promote_eq_ok_iff {id : Uuid} {t t' : Tables} :
    promote id t = .ok t' ↔ t.setFlag Rules.all (·.id == id.render) 1 = .ok t' :=
  mapError_eq_ok_iff

theorem ensureDocument_eq_ok_iff {p : String} {t : Tables} {u : Unit} :
    ensureDocument t p = .ok u ↔ t.hasDocument p = true := by
  unfold ensureDocument
  split
  next h => exact ⟨fun _ => h, fun _ => rfl⟩
  next h =>
    constructor
    · intro hok; cases hok
    · intro hdoc; exact absurd hdoc h

/-- Nobody has claimed a name. -/
theorem nameClaim_eq_none_iff {n : String} {t : Tables} :
    nameClaim t n = .ok none ↔ ∀ m ∈ t.names, m.name ≠ n := by
  have hname : t.name? n = none ↔ ∀ m ∈ t.names, m.name ≠ n := find?_key_eq_none_iff
  rw [← hname]
  unfold nameClaim
  cases t.name? n with
  | none => exact ⟨fun _ => rfl, fun _ => rfl⟩
  | some row =>
    dsimp only
    split
    · constructor
      · intro h; cases h
      · intro h; cases h
    · constructor
      · intro h; cases h
      · intro h; cases h

end Rows

namespace Tables

/-- The tables after a change of a document's aliases was counted. -/
def touched (t : Tables) (p : String) (now version : Int64) : Tables :=
  t.updateDocument p ({ · with version, updatedAt := now })

theorem touched_publicIds (t : Tables) (p : String) (now version : Int64) :
    (t.touched p now version).documents.map DocumentRow.publicId
      = t.documents.map DocumentRow.publicId :=
  updateDocument_publicIds fun _ => rfl

theorem touch_eq_ok_iff {p : String} {now : Int64} {t t' : Tables} :
    Rows.touch p now t = .ok t' ↔
      ∃ row version, t.document? p = some row ∧ version.toInt = row.version.toInt + 1 ∧
        t' = t.touched p now version := by
  unfold Rows.touch
  cases t.document? p with
  | none =>
    constructor
    · intro h; cases h
    · rintro ⟨row, version, hrow, -⟩; cases hrow
  | some row =>
    dsimp only
    cases hnext : Integer.next? row.version with
    | none =>
      constructor
      · intro h; cases h
      · rintro ⟨row', version, hrow, hversion, -⟩
        cases hrow
        rw [Integer.next?_eq_some_iff.2 hversion] at hnext
        cases hnext
    | some version =>
      constructor
      · intro h
        injection h with h
        exact ⟨row, version, rfl, Integer.next?_eq_some_iff.1 hnext, h.symm⟩
      · rintro ⟨row', version', hrow, hversion, rfl⟩
        cases hrow
        rw [Integer.next?_eq_some_iff.2 hversion] at hnext
        cases hnext
        rfl

/-! ## §2. The four changes. -/

/-- The row of a new alias, primary if its document has no other. -/
def newAlias (t : Tables) (fresh : Fresh) (p n : String) (position : Int64) : AliasRow :=
  Rows.aliasRow
    { id := fresh.id, name := n, primary := (t.aliasesOf p).isEmpty, document := p } position

theorem newAlias_flag (t : Tables) (fresh : Fresh) (p n : String) (position : Int64) :
    (t.newAlias fresh p n position).flag = if (t.aliasesOf p).isEmpty then 1 else 0 := rfl

/-- The tables after an alias was appended to a document. -/
def aliasAdded (t : Tables) (fresh : Fresh) (p n : String) (position version : Int64) : Tables :=
  (t.withAlias (t.newAlias fresh p n position)).touched p fresh.now version

/-- The tables after the alias row with an id was deleted from a document. -/
def aliasRemoved (t : Tables) (fresh : Fresh) (p : String) (id : Uuid) (version : Int64) : Tables :=
  (t.withoutAliases (·.id == id.render)).touched p fresh.now version

/-- A row after the primary flag of the document `p` was moved to the row with an id. -/
def promotedRow (p id : String) (a : AliasRow) : AliasRow :=
  if a.id = id then { a with flag := 1 }
  else if a.document = p ∧ a.flag = 1 then { a with flag := 0 }
  else a

/-- The tables after the primary flag of a document was moved to the row with an id. -/
def flagMoved (t : Tables) (p : String) (id : Uuid) : Tables :=
  (Rows.demoteAll p t).updateAliases (·.id == id.render) ({ · with flag := 1 })

/-- The two statements together, row by row. -/
theorem flagMoved_aliases (t : Tables) (p : String) (id : Uuid) :
    (t.flagMoved p id).aliases = t.aliases.map (promotedRow p id.render) := by
  unfold flagMoved Rows.demoteAll
  rw [updateAliases_aliases, updateAliases_aliases, List.map_map]
  apply List.map_congr_left
  intro a _
  unfold promotedRow
  -- clearing comes first, so the row that is set wins over its own clearing
  by_cases hid : a.id = id.render <;> by_cases hset : a.document = p ∧ a.flag = 1 <;>
    simp [hid, hset]

/-- Nothing but the flag of a row changes. -/
theorem promotedRow_eq (p id : String) (a : AliasRow) :
    ∃ v, promotedRow p id a = { a with flag := v } := by
  unfold promotedRow
  split
  · exact ⟨1, rfl⟩
  · split
    · exact ⟨0, rfl⟩
    · exact ⟨a.flag, rfl⟩

@[simp] theorem promotedRow_name (p id : String) (a : AliasRow) :
    (promotedRow p id a).name = a.name := by
  obtain ⟨v, h⟩ := promotedRow_eq p id a
  rw [h]

@[simp] theorem promotedRow_document (p id : String) (a : AliasRow) :
    (promotedRow p id a).document = a.document := by
  obtain ⟨v, h⟩ := promotedRow_eq p id a
  rw [h]

@[simp] theorem promotedRow_position (p id : String) (a : AliasRow) :
    (promotedRow p id a).position = a.position := by
  obtain ⟨v, h⟩ := promotedRow_eq p id a
  rw [h]

@[simp] theorem promotedRow_id (p id : String) (a : AliasRow) : (promotedRow p id a).id = a.id := by
  obtain ⟨v, h⟩ := promotedRow_eq p id a
  rw [h]

/-- Rows of other documents keep their flags, unless the id selects them. -/
theorem promotedRow_flag_of_ne {p id : String} {a : AliasRow} (h : a.document ≠ p)
    (hset : a.flag = 1) : (promotedRow p id a).flag = 1 := by
  unfold promotedRow
  split
  · rfl
  · rw [if_neg (fun hp => h hp.1)]
    exact hset

end Tables

namespace Work

open Tables

variable {fresh : Fresh} {p n : String} {t t' : Tables} {d : Document}

theorem createAlias_eq_ok_iff :
    (createAlias fresh p n).runOn t = (.ok d, t') ↔
      t.hasDocument p = true ∧ (∀ m ∈ t.names, m.name ≠ n) ∧
      ∃ position row version, Rows.nextPosition t p = .ok position ∧
        t.Admits (t.newAlias fresh p n position) ∧
        t.document? p = some row ∧ version.toInt = row.version.toInt + 1 ∧
        t' = t.aliasAdded fresh p n position version ∧ Rows.loadRequired t' p = .ok d := by
  unfold createAlias
  simp only [runOn_bind_eq_ok_iff, runOn_query_eq_ok_iff, runOn_change_eq_ok_iff,
    runOn_guard_eq_ok_iff, Rows.insertAlias_eq_ok_iff, touch_eq_ok_iff,
    Rows.ensureDocument_eq_ok_iff]
  constructor
  · rintro ⟨_, _, ⟨hdoc, rfl⟩, claim, _, ⟨hclaim, rfl⟩, hfree, primary, _, ⟨hprimary, rfl⟩,
      position, _, ⟨hposition, rfl⟩, _, _, ⟨hadmits, rfl⟩, _, _,
      ⟨row, version, hrow, hversion, rfl⟩, hload, rfl⟩
    have hnone : claim = none := by simpa using hfree
    subst hnone
    injection hprimary with hprimary
    subst hprimary
    exact ⟨hdoc, Rows.nameClaim_eq_none_iff.1 hclaim, position, row, version, hposition, hadmits,
      hrow, hversion, rfl, hload⟩
  · rintro ⟨hdoc, hfree, position, row, version, hposition, hadmits, hrow, hversion, rfl, hload⟩
    exact ⟨(), t, ⟨hdoc, rfl⟩, none, t, ⟨Rows.nameClaim_eq_none_iff.2 hfree, rfl⟩, rfl, _, t,
      ⟨rfl, rfl⟩, position, t, ⟨hposition, rfl⟩, (), _, ⟨hadmits, rfl⟩, (), _,
      ⟨row, version, hrow, hversion, rfl⟩, hload, rfl⟩

theorem deleteAlias_eq_ok_iff :
    (deleteAlias fresh p n).runOn t = (.ok d, t') ↔
      t.hasDocument p = true ∧
      ∃ a row version, Rows.ownedAlias t p n = .ok a ∧
        ¬(a.primary = true ∧ (t.aliasesOf p).length > 1) ∧
        t.document? p = some row ∧
        version.toInt = row.version.toInt + 1 ∧
        t' = t.aliasRemoved fresh p a.id version ∧ Rows.loadRequired t' p = .ok d := by
  unfold deleteAlias
  simp only [runOn_bind_eq_ok_iff, runOn_query_eq_ok_iff, runOn_change_eq_ok_iff,
    runOn_guard_eq_ok_iff, touch_eq_ok_iff, Rows.ensureDocument_eq_ok_iff]
  constructor
  · rintro ⟨_, _, ⟨hdoc, rfl⟩, a, _, ⟨howned, rfl⟩, count, _, ⟨hcount, rfl⟩, hguard, _, t₁, hdelete,
      _, _, ⟨row, version, hrow, hversion, rfl⟩, hload, rfl⟩
    injection hcount with hcount
    injection hdelete with hdelete
    subst hcount
    unfold Rows.deleteAlias at hdelete
    rw [removeAliases_eq] at hdelete
    subst hdelete
    have hsole : ¬(a.primary = true ∧ (t.aliasesOf p).length > 1) := by simpa using hguard
    exact ⟨hdoc, a, row, version, howned, hsole, hrow, hversion, rfl, hload⟩
  · rintro ⟨hdoc, a, row, version, howned, hsole, hrow, hversion, rfl, hload⟩
    refine ⟨(), t, ⟨hdoc, rfl⟩, a, t, ⟨howned, rfl⟩, _, t, ⟨rfl, rfl⟩, by simpa using hsole, (),
      t.withoutAliases (·.id == a.id.render), ?_, (), _, ⟨row, version, hrow, hversion, rfl⟩, hload,
      rfl⟩
    unfold Rows.deleteAlias
    rw [removeAliases_eq]

theorem promoteAlias_eq_ok_iff :
    (promoteAlias fresh p n).runOn t = (.ok d, t') ↔
      t.hasDocument p = true ∧
      ∃ a, Rows.ownedAlias t p n = .ok a ∧ Rows.loadRequired t' p = .ok d ∧
        (a.primary = true ∧ t' = t ∨
          a.primary = false ∧ ∃ row version,
            (Rows.demoteAll p t).setFlag Rules.all (·.id == a.id.render) 1
              = .ok (t.flagMoved p a.id) ∧
            t.document? p = some row ∧ version.toInt = row.version.toInt + 1 ∧
            t' = (t.flagMoved p a.id).touched p fresh.now version) := by
  unfold promoteAlias
  simp only [runOn_bind_eq_ok_iff, runOn_query_eq_ok_iff, Rows.ensureDocument_eq_ok_iff]
  constructor
  · rintro ⟨_, _, ⟨hdoc, rfl⟩, a, _, ⟨howned, rfl⟩, hrest⟩
    refine ⟨hdoc, a, howned, ?_⟩
    cases hprimary : a.primary with
    | true =>
      rw [hprimary] at hrest
      obtain ⟨hload, rfl⟩ := runOn_query_eq_ok_iff.1 hrest
      exact ⟨hload, Or.inl ⟨rfl, rfl⟩⟩
    | false =>
      rw [hprimary] at hrest
      simp only [Bool.not_false, if_true, runOn_bind_eq_ok_iff, runOn_query_eq_ok_iff,
        runOn_change_eq_ok_iff, Rows.promote_eq_ok_iff, touch_eq_ok_iff] at hrest
      obtain ⟨_, _, hdemote, _, s, hset, _, _, ⟨row, version, hrow, hversion, rfl⟩, hload, rfl⟩ :=
        hrest
      injection hdemote with hdemote
      subst hdemote
      have hmoved : s = t.flagMoved p a.id := (setFlag_eq_ok_iff.1 hset).2
      subst hmoved
      exact ⟨hload, Or.inr ⟨rfl, row, version, hset, hrow, hversion, rfl⟩⟩
  · rintro ⟨hdoc, a, howned, hload, hcase⟩
    refine ⟨(), t, ⟨hdoc, rfl⟩, a, t, ⟨howned, rfl⟩, ?_⟩
    rcases hcase with ⟨hprimary, rfl⟩ | ⟨hprimary, row, version, hset, hrow, hversion, rfl⟩
    · rw [hprimary]
      exact runOn_query_eq_ok_iff.2 ⟨hload, rfl⟩
    · rw [hprimary]
      simp only [Bool.not_false, if_true, runOn_bind_eq_ok_iff, runOn_query_eq_ok_iff,
        runOn_change_eq_ok_iff, Rows.promote_eq_ok_iff, touch_eq_ok_iff]
      exact ⟨(), _, rfl, (), _, hset, (), _, ⟨row, version, hrow, hversion, rfl⟩, hload, rfl⟩

theorem ensureUnclaimed_eq_ok_iff {u : Unit} :
    (ensureUnclaimed n).runOn t = (.ok u, t') ↔ (∀ m ∈ t.names, m.name ≠ n) ∧ t = t' := by
  unfold ensureUnclaimed
  rw [runOn_bind_eq_ok_iff]
  simp only [runOn_query_eq_ok_iff]
  constructor
  · rintro ⟨claim, _, ⟨hclaim, rfl⟩, hrest⟩
    cases claim with
    | none =>
      injection hrest with _ ht
      exact ⟨Rows.nameClaim_eq_none_iff.1 hclaim, ht⟩
    | some k => exact absurd hrest runOn_throw_ne_ok
  · rintro ⟨hfree, rfl⟩
    exact ⟨none, t, ⟨Rows.nameClaim_eq_none_iff.2 hfree, rfl⟩, rfl⟩

/-- A document without an alias. -/
theorem createDocument_none_eq_ok_iff :
    (createDocument fresh p none).runOn t = (.ok d, t') ↔
      (∀ e ∈ t.documents, e.publicId ≠ p) ∧ (∀ m ∈ t.names, m.name ≠ p) ∧
        t' = t.withDocument ⟨p, 0, fresh.now, fresh.now⟩ ∧ Rows.loadRequired t' p = .ok d := by
  unfold createDocument
  simp only [runOn_bind_eq_ok_iff, ensureUnclaimed_eq_ok_iff, runOn_query_eq_ok_iff,
    runOn_change_eq_ok_iff, Rows.insertDocument_eq_ok_iff]
  constructor
  · rintro ⟨_, _, ⟨hfree, rfl⟩, _, _, ⟨hids, -, rfl⟩, hload, rfl⟩
    exact ⟨hids, hfree, rfl, hload⟩
  · rintro ⟨hids, hfree, rfl, hload⟩
    exact ⟨(), t, ⟨hfree, rfl⟩, (), _, ⟨hids, hfree, rfl⟩, hload, rfl⟩

/-- A document with its first alias. -/
theorem createDocument_some_eq_ok_iff :
    (createDocument fresh p (some n)).runOn t = (.ok d, t') ↔
      (∀ e ∈ t.documents, e.publicId ≠ p) ∧ (∀ m ∈ t.names, m.name ≠ p) ∧ n ≠ p ∧
        (∀ m ∈ t.names, m.name ≠ n) ∧
        (t.withDocument ⟨p, 0, fresh.now, fresh.now⟩).Admits
          (Rows.aliasRow { id := fresh.id, name := n, primary := true, document := p } 0) ∧
        t' = (t.withDocument ⟨p, 0, fresh.now, fresh.now⟩).withAlias
          (Rows.aliasRow { id := fresh.id, name := n, primary := true, document := p } 0) ∧
        Rows.loadRequired t' p = .ok d := by
  unfold createDocument
  rw [runOn_bind_eq_ok_iff]
  simp only [ensureUnclaimed_eq_ok_iff]
  constructor
  · rintro ⟨_, _, ⟨hfree, rfl⟩, hrest⟩
    by_cases hname : n = p
    · rw [if_pos hname] at hrest
      exact absurd hrest (by rw [runOn_bind]; intro h; cases h)
    · rw [if_neg hname] at hrest
      simp only [runOn_bind_eq_ok_iff, ensureUnclaimed_eq_ok_iff, runOn_query_eq_ok_iff,
        runOn_change_eq_ok_iff, Rows.insertDocument_eq_ok_iff, Rows.insertAlias_eq_ok_iff] at hrest
      obtain ⟨_, _, ⟨hnfree, rfl⟩, _, _, ⟨hids, -, rfl⟩, _, _, ⟨hadmits, rfl⟩, hload, rfl⟩ := hrest
      exact ⟨hids, hfree, hname, hnfree, hadmits, rfl, hload⟩
  · rintro ⟨hids, hfree, hname, hnfree, hadmits, rfl, hload⟩
    refine ⟨(), t, ⟨hfree, rfl⟩, ?_⟩
    rw [if_neg hname]
    simp only [runOn_bind_eq_ok_iff, ensureUnclaimed_eq_ok_iff, runOn_query_eq_ok_iff,
      runOn_change_eq_ok_iff, Rows.insertDocument_eq_ok_iff, Rows.insertAlias_eq_ok_iff]
    exact ⟨(), t, ⟨hnfree, rfl⟩, (), _, ⟨hids, hfree, rfl⟩, (), _, ⟨hadmits, rfl⟩, hload, rfl⟩

end Work

/-! ## §3. What every granted change keeps. -/

namespace Tables

variable {fresh : Fresh} {p n : String} {t t' : Tables} {d : Document}

theorem Indexed.touched (h : t.Indexed) (p : String) (now version : Int64) :
    (t.touched p now version).Indexed :=
  h.updateDocument fun _ => rfl

theorem Indexed.demoteAll (h : t.Indexed) (p : String) : (Rows.demoteAll p t).Indexed := by
  refine h.updateAliases (fun _ => rfl) (fun _ => rfl) (h.ids_updateAliases fun _ => rfl) ?_
  refine h.primaries_updateAliases (fun _ => rfl) ?_
  intro a hset
  have hzero : (0 : Int64) ≠ 1 := by decide
  exact absurd hset hzero

/-- Two rows that an id selects have that id. -/
theorem id_eq_of_id {id : String} : ∀ a ∈ t.aliases, ∀ b ∈ t.aliases,
    (a.id == id) = true → (b.id == id) = true → a.id = b.id := by
  intro a _ b _ ha hb
  exact (beq_iff_eq.1 ha).trans (beq_iff_eq.1 hb).symm

/-- **The forms that granted changes are made of.** -/
inductive Rewritten : Tables → Tables → Prop where
  | withDocument {t : Tables} {row : DocumentRow} :
      (∀ e ∈ t.documents, e.publicId ≠ row.publicId) → (∀ m ∈ t.names, m.name ≠ row.publicId) →
      Rewritten t (t.withDocument row)
  | withAlias {t : Tables} {a : Alias} {position : Int64} : t.Admits (Rows.aliasRow a position) →
      Rewritten t (t.withAlias (Rows.aliasRow a position))
  | withoutAliases {t : Tables} (gone : AliasRow → Bool) : Rewritten t (t.withoutAliases gone)
  | flagMoved {t : Tables} {p : String} {u : Uuid} :
      (Rows.demoteAll p t).setFlag Rules.all (·.id == u.render) 1 = .ok (t.flagMoved p u) →
      Rewritten t (t.flagMoved p u)
  | touched {t : Tables} (p : String) (now version : Int64) : Rewritten t (t.touched p now version)

/-- **What every form keeps, a granted change keeps.** -/
theorem kept_of_granted {P : Tables → Prop} {r : Request} {w : Work Document}
    (hP : ∀ s s', Rewritten s s' → P s → P s') (h : P t) (hwork : r.work? fresh = some w)
    (hrun : w.runOn t = (.ok d, t')) : P t' := by
  have htouched : ∀ s p now version, P s → P (s.touched p now version) :=
    fun s p now version => hP _ _ (.touched p now version)
  cases r with
  | createAlias p n =>
    cases hwork
    obtain ⟨-, -, position, row, version, -, hadmits, -, -, rfl, -⟩ :=
      Work.createAlias_eq_ok_iff.1 hrun
    exact htouched _ _ _ _ (hP _ _ (.withAlias hadmits) h)
  | deleteAlias p n =>
    cases hwork
    obtain ⟨-, a, row, version, -, -, -, -, rfl, -⟩ := Work.deleteAlias_eq_ok_iff.1 hrun
    exact htouched _ _ _ _ (hP _ _ (.withoutAliases _) h)
  | promoteAlias p n =>
    cases hwork
    obtain ⟨-, a, -, -, hcase⟩ := Work.promoteAlias_eq_ok_iff.1 hrun
    rcases hcase with ⟨-, rfl⟩ | ⟨-, row, version, hset, -, -, rfl⟩
    · exact h
    · exact htouched _ _ _ _ (hP _ _ (.flagMoved hset) h)
  | createDocument p initial =>
    cases hwork
    cases initial with
    | none =>
      obtain ⟨hids, hfree, rfl, -⟩ := Work.createDocument_none_eq_ok_iff.1 hrun
      exact hP _ _ (.withDocument hids hfree) h
    | some n =>
      obtain ⟨hids, hfree, -, -, hadmits, rfl, -⟩ := Work.createDocument_some_eq_ok_iff.1 hrun
      exact hP _ _ (.withAlias hadmits) (hP _ _ (.withDocument hids hfree) h)
  | _ => cases hwork

/-- **A granted change keeps the rules of the store.** -/
theorem Indexed.granted {r : Request} {w : Work Document} (h : t.Indexed)
    (hwork : r.work? fresh = some w) (hrun : w.runOn t = (.ok d, t')) : t'.Indexed := by
  refine kept_of_granted (fun s s' hform hs => ?_) h hwork hrun
  cases hform with
  | withDocument hids hfree => exact hs.withDocument hfree
  | withAlias hadmits => exact hs.withAlias hadmits
  | withoutAliases gone => exact hs.withoutAliases
  | flagMoved hset => exact (hs.demoteAll _).setFlag id_eq_of_id hset
  | touched p now version => exact hs.touched p now version

/-- **A granted change renames and moves no row.** -/
theorem rowsLive_granted {r : Request} {w : Work Document} (hwork : r.work? fresh = some w)
    (hrun : w.runOn t = (.ok d, t')) : t.RowsLive t' := by
  cases r with
  | createAlias p n =>
    cases hwork
    obtain ⟨-, -, position, row, version, -, -, -, -, rfl, -⟩ :=
      Work.createAlias_eq_ok_iff.1 hrun
    exact ⟨.of_map_eq (touched_publicIds _ p _ _), .concat rfl⟩
  | deleteAlias p n =>
    cases hwork
    obtain ⟨-, a, row, version, -, -, -, -, rfl, -⟩ := Work.deleteAlias_eq_ok_iff.1 hrun
    exact ⟨.of_map_eq (touched_publicIds _ p _ _), Or.inr List.filter_sublist⟩
  | promoteAlias p n =>
    cases hwork
    obtain ⟨-, a, -, -, hcase⟩ := Work.promoteAlias_eq_ok_iff.1 hrun
    rcases hcase with ⟨-, rfl⟩ | ⟨-, row, version, -, -, -, rfl⟩
    · exact RowsLive.refl _
    · have haliases : (t.flagMoved p a.id).aliases.map AliasRow.key
          = t.aliases.map AliasRow.key := by
        rw [flagMoved_aliases, List.map_map]
        apply List.map_congr_left
        intro b _
        simp [AliasRow.key]
      exact ⟨.of_map_eq (touched_publicIds _ p _ _), .of_map_eq haliases⟩
  | createDocument p initial =>
    cases hwork
    cases initial with
    | none =>
      obtain ⟨-, -, rfl, -⟩ := Work.createDocument_none_eq_ok_iff.1 hrun
      exact ⟨.concat rfl, LiveOn.refl _ _⟩
    | some n =>
      obtain ⟨-, -, -, -, -, rfl, -⟩ := Work.createDocument_some_eq_ok_iff.1 hrun
      exact ⟨.concat rfl, .concat rfl⟩
  | _ => cases hwork

end Tables

end Namebook
