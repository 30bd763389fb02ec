/-
  Namebook.Proofs.Store.Order
  ───────────────────────────
  **THE ORDER OF ALIASES.**

  Sorting puts rows in order, by position and then by id, and keeps rows that agree in both as they
  stood.  What a change does to the rows of a document it does to the rows in order:

    • `ascending_sortRows`, `sorted_sortRows` — the order of rows whatever their positions are;
    • `sortRows_congr` — there is one order only where no two rows agree in position and id;
    • `sortRows_concat`, `exists_sortRows_concat` — a row beyond all others comes last, and any other
      somewhere between them;
    • `sortRows_filter`, `sortRows_map` — rows go, or change in place, without disturbing the rest.
-/
import Namebook.Store.Tables

namespace Namebook

namespace Tables

/-- Rows at distinct positions. -/
def Apart (rows : List AliasRow) : Prop :=
  rows.Pairwise fun a b => a.position ≠ b.position

/-- Rows of which no two have one position and one id. -/
def Distinct (rows : List AliasRow) : Prop :=
  rows.Pairwise fun a b => ¬(a.position = b.position ∧ a.id = b.id)

/-- Rows of which none precedes an earlier one. -/
def Ascending (rows : List AliasRow) : Prop :=
  rows.Pairwise fun a b => ¬precedes b a = true

/-! ## §1. Sorting gives the order. -/

theorem precedes_iff {a b : AliasRow} :
    precedes a b = true ↔ a.position < b.position ∨ a.position = b.position ∧ a.id < b.id := by
  simp [precedes]

theorem precedes_trans {a b c : AliasRow} (hab : precedes a b = true) (hbc : precedes b c = true) :
    precedes a c = true := by
  rw [precedes_iff] at *
  rcases hab with hab | ⟨hab, hid⟩
  · rcases hbc with hbc | ⟨hbc, -⟩
    · exact Or.inl (Int64.lt_trans hab hbc)
    · exact Or.inl (hbc ▸ hab)
  · rcases hbc with hbc | ⟨hbc, hid'⟩
    · exact Or.inl (hab ▸ hbc)
    · exact Or.inr ⟨hab.trans hbc, String.lt_trans hid hid'⟩

theorem precedes_asymm {a b : AliasRow} (h : precedes a b = true) : ¬precedes b a = true := by
  intro h'
  rcases precedes_iff.1 (precedes_trans h h') with hlt | ⟨-, hlt⟩
  · exact Int64.lt_irrefl hlt
  · exact String.lt_irrefl a.id hlt

/-- Of two rows that differ in position or id, one precedes the other. -/
theorem precedes_of_not {a b : AliasRow} (hne : ¬(a.position = b.position ∧ a.id = b.id))
    (h : ¬precedes a b = true) : precedes b a = true := by
  rw [precedes_iff, not_or, not_and] at h
  obtain ⟨hle, hids⟩ := h
  rw [precedes_iff]
  by_cases hpos : a.position = b.position
  · refine Or.inr ⟨hpos.symm, ?_⟩
    have hle' : b.id ≤ a.id := String.not_lt.1 (hids hpos)
    exact String.not_le.1 fun hge => hne ⟨hpos, String.le_antisymm hge hle'⟩
  · exact Or.inl (Int64.lt_of_le_of_ne (Int64.not_lt.1 hle) (Ne.symm hpos))

/-- What precedes a row precedes every row that the row does not come after. -/
theorem precedes_of_precedes {a b c : AliasRow} (hab : precedes a b = true)
    (hcb : ¬precedes c b = true) : precedes a c = true := by
  by_cases hsame : c.position = b.position ∧ c.id = b.id
  · rw [precedes_iff] at hab ⊢
    rw [hsame.1, hsame.2]
    exact hab
  · exact precedes_trans hab (precedes_of_not hsame hcb)

theorem ascending_insertRow {a : AliasRow} {rows : List AliasRow} (h : Ascending rows) :
    Ascending (insertRow a rows) := by
  induction rows with
  | nil => exact List.pairwise_singleton _ _
  | cons b rows ih =>
    obtain ⟨hb, hrows⟩ := List.pairwise_cons.1 h
    unfold insertRow
    by_cases hprec : precedes a b = true
    · rw [if_pos hprec]
      refine List.pairwise_cons.2 ⟨?_, h⟩
      intro c hc
      rcases List.mem_cons.1 hc with rfl | hc
      · exact precedes_asymm hprec
      · exact precedes_asymm (precedes_of_precedes hprec (hb c hc))
    · rw [if_neg hprec]
      refine List.pairwise_cons.2 ⟨?_, ih hrows⟩
      intro c hc
      rcases List.mem_cons.1 ((perm_insertRow a rows).mem_iff.1 hc) with rfl | hc
      · exact hprec
      · exact hb c hc

/-- **Sorting puts rows in order**, whatever they are. -/
theorem ascending_sortRows (rows : List AliasRow) : Ascending (sortRows rows) := by
  induction rows with
  | nil => exact List.Pairwise.nil
  | cons a rows ih => exact ascending_insertRow ih

/-- **Where no two rows agree in position and id**, each precedes all that follow. -/
theorem sorted_sortRows {rows : List AliasRow} (h : Distinct rows) :
    (sortRows rows).Pairwise fun a b => precedes a b = true := by
  have hdistinct : Distinct (sortRows rows) :=
    (perm_sortRows rows).symm.pairwise h fun hne hsame => hne ⟨hsame.1.symm, hsame.2.symm⟩
  refine ((ascending_sortRows rows).and hdistinct).imp ?_
  rintro a b ⟨hnot, hne⟩
  exact precedes_of_not (fun hsame => hne ⟨hsame.1.symm, hsame.2.symm⟩) hnot

/-- **There is only one order then.** -/
theorem sortRows_congr {rows rows' : List AliasRow} (hperm : rows'.Perm rows) (h : Distinct rows) :
    sortRows rows' = sortRows rows := by
  have hdistinct : Distinct rows' :=
    hperm.symm.pairwise h fun hne hsame => hne ⟨hsame.1.symm, hsame.2.symm⟩
  refine List.Perm.eq_of_pairwise ?_ (sorted_sortRows hdistinct) (sorted_sortRows h)
    ((perm_sortRows rows').trans (hperm.trans (perm_sortRows rows).symm))
  intro a b _ _ hab hba
  exact absurd hba (precedes_asymm hab)

/-! ## §2. What passes through sorting. -/

theorem insertRow_concat {a b : AliasRow} {rows : List AliasRow} (h : precedes b a = true) :
    insertRow b (rows ++ [a]) = insertRow b rows ++ [a] := by
  induction rows with
  | nil =>
    show (if precedes b a = true then _ else _) = _
    rw [if_pos h]
    rfl
  | cons c rows ih =>
    show (if precedes b c = true then _ else _) = (if precedes b c = true then _ else _) ++ [a]
    split
    · rfl
    · exact congrArg (c :: ·) ih

/-- A row beyond all others comes last. -/
theorem sortRows_concat {rows : List AliasRow} {a : AliasRow}
    (hlast : ∀ b ∈ rows, b.position < a.position) :
    sortRows (rows ++ [a]) = sortRows rows ++ [a] := by
  induction rows with
  | nil => rfl
  | cons b rows ih =>
    show insertRow b (sortRows (rows ++ [a])) = _
    rw [ih fun c hc => hlast c (List.mem_cons_of_mem b hc)]
    exact insertRow_concat (precedes_iff.2 (Or.inl (hlast b List.mem_cons_self)))

/-- A row that precedes all others comes first. -/
theorem insertRow_of_first {a : AliasRow} {rows : List AliasRow}
    (h : ∀ b ∈ rows, precedes a b = true) : insertRow a rows = a :: rows := by
  cases rows with
  | nil => rfl
  | cons b rows => exact if_pos (h b List.mem_cons_self)

theorem filter_insertRow {a : AliasRow} {rows : List AliasRow} (p : AliasRow → Bool)
    (h : Ascending rows) :
    (insertRow a rows).filter p = if p a = true then insertRow a (rows.filter p) else rows.filter p := by
  induction rows with
  | nil => exact List.filter_cons
  | cons b rows ih =>
    obtain ⟨hb, hrows⟩ := List.pairwise_cons.1 h
    by_cases hprec : precedes a b = true
    · -- the row stands before all others, and so it does before those that are left
      have hfirst : insertRow a ((b :: rows).filter p) = a :: (b :: rows).filter p := by
        refine insertRow_of_first fun c hc => ?_
        rcases List.mem_cons.1 (List.mem_filter.1 hc).1 with rfl | hc
        · exact hprec
        · exact precedes_of_precedes hprec (hb c hc)
      rw [hfirst, show insertRow a (b :: rows) = a :: b :: rows from if_pos hprec]
      exact List.filter_cons
    · rw [show insertRow a (b :: rows) = b :: insertRow a rows from if_neg hprec]
      by_cases hkeep : p b = true
      · rw [List.filter_cons_of_pos hkeep, List.filter_cons_of_pos hkeep, ih hrows,
          show insertRow a (b :: rows.filter p) = b :: insertRow a (rows.filter p) from if_neg hprec]
        split <;> rfl
      · rw [List.filter_cons_of_neg hkeep, List.filter_cons_of_neg hkeep, ih hrows]

/-- Rows that go leave the others in their order. -/
theorem sortRows_filter (p : AliasRow → Bool) (rows : List AliasRow) :
    sortRows (rows.filter p) = (sortRows rows).filter p := by
  induction rows with
  | nil => rfl
  | cons a rows ih =>
    show _ = (insertRow a (sortRows rows)).filter p
    rw [filter_insertRow p (ascending_sortRows rows), ← ih, List.filter_cons]
    split <;> rfl

/-- A row with an id of its own stands somewhere between the others. -/
theorem exists_sortRows_concat {rows : List AliasRow} {a : AliasRow} (h : ∀ b ∈ rows, b.id ≠ a.id) :
    ∃ l₁ l₂, sortRows (rows ++ [a]) = l₁ ++ a :: l₂ ∧ sortRows rows = l₁ ++ l₂ := by
  have hmem : a ∈ sortRows (rows ++ [a]) :=
    (perm_sortRows _).mem_iff.2 (List.mem_append_right _ (List.mem_singleton_self a))
  obtain ⟨l₁, l₂, hsplit⟩ := List.append_of_mem hmem
  refine ⟨l₁, l₂, hsplit, ?_⟩
  -- without this row the others are what they were, in their order
  have hothers : (l₁ ++ l₂).Perm rows := by
    have hperm := perm_sortRows (rows ++ [a])
    rw [hsplit] at hperm
    exact (List.perm_middle.symm.trans (hperm.trans List.perm_append_comm)).cons_inv
  have hkeep : ∀ l : List AliasRow, (∀ b ∈ l, b.id ≠ a.id) → l.filter (·.id != a.id) = l :=
    fun l hl => List.filter_eq_self.2 fun b hb => bne_iff_ne.2 (hl b hb)
  have hdrop : [a].filter (·.id != a.id) = [] := by
    rw [List.filter_cons_of_neg (by simp), List.filter_nil]
  have hsorted := sortRows_filter (·.id != a.id) (rows ++ [a])
  rw [hsplit, List.filter_append, List.filter_append, hkeep rows h, hdrop, List.append_nil,
    ← List.singleton_append, List.filter_append, hdrop, List.nil_append,
    hkeep l₁ fun b hb => h b (hothers.mem_iff.1 (List.mem_append_left l₂ hb)),
    hkeep l₂ fun b hb => h b (hothers.mem_iff.1 (List.mem_append_right l₁ hb))] at hsorted
  exact hsorted

/-- Rows that keep their positions and ids keep their places. -/
theorem sortRows_map {f : AliasRow → AliasRow} (hposition : ∀ a, (f a).position = a.position)
    (hid : ∀ a, (f a).id = a.id) (rows : List AliasRow) :
    sortRows (rows.map f) = (sortRows rows).map f := by
  have hprec : ∀ a b, precedes (f a) (f b) = precedes a b := by
    intro a b
    unfold precedes
    rw [hposition, hposition, hid, hid]
  have hinsert : ∀ a (rows : List AliasRow),
      insertRow (f a) (rows.map f) = (insertRow a rows).map f := by
    intro a rows
    induction rows with
    | nil => rfl
    | cons b rows ih =>
      show (if precedes (f a) (f b) = true then _ else _)
        = (if precedes a b = true then _ else _ : List AliasRow).map f
      rw [hprec, ih]
      split <;> rfl
  induction rows with
  | nil => rfl
  | cons a rows ih =>
    show insertRow (f a) (sortRows (rows.map f)) = _
    rw [ih]
    exact hinsert a (sortRows rows)

end Tables

end Namebook
