/-
  Namebook.Proofs.Store.RowChange
  ───────────────────────────────
  **STATEMENTS OF OTHER PROGRAMS — what any of them can do to the rows.**

  Two facts about a single accepted statement:

    • `Indexed.change` — with all rules on, a statement that spares the name index and the
      one-primary index keeps the store obeying its rules;
    • `rowsLive_change` — under any rules, no statement gives a row another public id, another
      name or another owner.
-/
import Namebook.Proofs.Store.Index

namespace Namebook

/-- A statement that edits neither the name index nor the index of primary aliases. -/
def RowChange.sparesIndex : RowChange → Bool
  | claimName _ _ => false
  | releaseName _ => false
  | dropPrimaryIndex => false
  | _ => true

/-! ## §1. The rules survive. -/

namespace Tables

/-- Two rows that a name selects are one row. -/
theorem Indexed.id_eq_of_name {t : Tables} (h : t.Indexed) {n : String} :
    ∀ a ∈ t.aliases, ∀ b ∈ t.aliases, (a.name == n) = true → (b.name == n) = true →
      a.id = b.id := by
  intro a ha b hb hna hnb
  have hname : a.name = b.name := (beq_iff_eq.1 hna).trans (beq_iff_eq.1 hnb).symm
  rw [eq_of_key_eq h.aliasNames ha hb hname]

/-- A new id for one row is refused if another row has it. -/
theorem Indexed.setId {t : Tables} (h : t.Indexed) {n text : String}
    (hfree : ¬(t.aliases.any (·.name == n) && t.aliases.any fun a => a.name != n && a.id == text)
      = true) : (t.updateAliases (·.name == n) ({ · with id := text })).Indexed := by
  refine h.updateAliases (fun _ => rfl) (fun _ => rfl) ?_
    (h.primaries_updateAliases (fun _ => rfl) fun _ => id)
  rw [updateAliases_aliases, List.pairwise_map]
  -- had another row the new id, the uniqueness check would have found it
  have hother : ∀ a ∈ t.aliases, a.name = n → ∀ b ∈ t.aliases, b.name ≠ n → b.id ≠ text := by
    intro a ha han b hb hbn hid
    apply hfree
    rw [Bool.and_eq_true, List.any_eq_true, List.any_eq_true]
    exact ⟨⟨a, ha, by simpa using han⟩, b, hb, by simp [hbn, hid]⟩
  refine List.Pairwise.imp_of_mem ?_ (List.Pairwise.and h.ids h.aliasNames)
  intro a b ha hb hab
  obtain ⟨hid, hname⟩ := hab
  by_cases han : a.name = n <;> by_cases hbn : b.name = n
  · exact absurd (han.trans hbn.symm) hname
  · simp only [han, hbn, beq_self_eq_true, if_true, beq_iff_eq, if_false]
    exact (hother a ha han b hb hbn).symm
  · simp only [han, hbn, beq_self_eq_true, if_true, beq_iff_eq, if_false]
    exact hother b hb hbn a ha han
  · simp only [han, hbn, beq_iff_eq, if_false]
    exact hid

/-- What an accepted statement has written. -/
theorem eq_of_ok {t t' : Tables} {k n : Nat} (h : (.ok (t, k) : Changed) = .ok (t', n)) :
    t' = t := by
  injection h with h
  injection h with h
  exact h.symm

theorem map_count_eq_ok {e : Except EngineError Tables} {k n : Nat} {t' : Tables}
    (h : e.map (·, k) = .ok (t', n)) : e = .ok t' := by
  cases e with
  | error e => cases h
  | ok t => rw [eq_of_ok h]

/-- A forbidden statement changes nothing, accepted or not. -/
theorem forbid_eq_ok {text : String} {touched n : Nat} {t t' : Tables}
    (h : t.forbid text touched = .ok (t', n)) : t' = t := by
  unfold forbid at h
  split at h
  · exact eq_of_ok h
  · cases h

/-- **A checked statement that spares the indexes keeps the rules.** -/
theorem Indexed.change {t t' : Tables} {ch : RowChange} {n : Nat} (h : t.Indexed)
    (hspare : ch.sparesIndex = true) (hok : t.change Rules.all ch = .ok (t', n)) :
    t'.Indexed := by
  cases ch with
  | insertDocument row =>
    obtain ⟨-, hfree, rfl⟩ := insertDocument_eq_ok_iff.1 (map_count_eq_ok hok)
    exact h.withDocument hfree
  | deleteDocument p =>
    rw [eq_of_ok hok]
    exact h.deleteDocument
  | renameDocument p new =>
    rw [forbid_eq_ok hok]
    exact h
  | setVersion p v =>
    rw [eq_of_ok hok]
    exact h.updateDocument fun _ => rfl
  | setTimes p c u =>
    rw [eq_of_ok hok]
    exact h.updateDocument fun _ => rfl
  | insertAlias row =>
    obtain ⟨hadmits, rfl⟩ := insertAlias_eq_ok_iff.1 (map_count_eq_ok hok)
    exact h.withAlias hadmits
  | deleteAlias name =>
    rw [eq_of_ok hok, removeAliases_eq]
    exact h.withoutAliases
  | renameAlias name new =>
    rw [forbid_eq_ok hok]
    exact h
  | moveAlias name document =>
    rw [forbid_eq_ok hok]
    exact h
  | setId name text =>
    change (if _ then _ else _) = _ at hok
    split at hok
    · cases hok
    next hfree =>
      rw [eq_of_ok hok]
      exact h.setId hfree
  | setFlag name value => exact h.setFlag h.id_eq_of_name (map_count_eq_ok hok)
  | setPosition name value =>
    rw [eq_of_ok hok]
    exact h.updateAliases (fun _ => rfl) (fun _ => rfl) (h.ids_updateAliases fun _ => rfl)
      (h.primaries_updateAliases (fun _ => rfl) fun _ => id)
  | clearPrimaries document =>
    rw [eq_of_ok hok]
    refine h.updateAliases (fun _ => rfl) (fun _ => rfl) (h.ids_updateAliases fun _ => rfl)
      (h.primaries_updateAliases (fun _ => rfl) ?_)
    -- no row that is cleared is primary afterwards
    intro a hset
    have hzero : (0 : Int64) ≠ 1 := by decide
    exact absurd hset hzero
  | claimName name kind => cases hspare
  | releaseName name => cases hspare
  | dropPrimaryIndex => cases hspare

end Tables

/-! ## §2. Rows keep what they are known by. -/

section Lines

variable {α κ : Type}

/-- How the rows of a table come out of a step: either each stays in its place with its key, and new
rows may follow, or some go and the others stay exactly as they are. -/
def LiveOn (key : α → κ) (rows rows' : List α) : Prop :=
  rows.map key <+: rows'.map key ∨ rows'.Sublist rows

theorem LiveOn.of_map_eq {key : α → κ} {rows rows' : List α} (h : rows'.map key = rows.map key) :
    LiveOn key rows rows' :=
  Or.inl ⟨[], by rw [h, List.append_nil]⟩

theorem LiveOn.refl (key : α → κ) (rows : List α) : LiveOn key rows rows :=
  .of_map_eq rfl

/-- A row at the end, after changes in place. -/
theorem LiveOn.concat {key : α → κ} {rows rows' : List α} {row : α}
    (h : rows'.map key = (rows ++ [row]).map key) : LiveOn key rows rows' :=
  Or.inl (by rw [h, List.map_append]; exact List.prefix_append _ _)

end Lines

/-- The columns of an alias row that never change: its name and its owner. -/
def AliasRow.key (a : AliasRow) : String × String := (a.name, a.document)

/-- **No row that lives on changes its public id, its name or its owner.** -/
structure Tables.RowsLive (t t' : Tables) : Prop where
  documents : LiveOn DocumentRow.publicId t.documents t'.documents
  aliases : LiveOn AliasRow.key t.aliases t'.aliases

namespace Tables

theorem RowsLive.refl (t : Tables) : t.RowsLive t :=
  ⟨LiveOn.refl _ _, LiveOn.refl _ _⟩

theorem rowsLive_updateDocument {p : String} {f : DocumentRow → DocumentRow} {t : Tables}
    (hf : ∀ d, (f d).publicId = d.publicId) : t.RowsLive (t.updateDocument p f) :=
  ⟨.of_map_eq (updateDocument_publicIds hf), LiveOn.refl _ _⟩

theorem rowsLive_updateAliases {selects : AliasRow → Bool} {f : AliasRow → AliasRow} {t : Tables}
    (hf : ∀ a, (f a).key = a.key) : t.RowsLive (t.updateAliases selects f) :=
  ⟨LiveOn.refl _ _, .of_map_eq (updateAliases_map hf)⟩

theorem rowsLive_withoutAliases {gone : AliasRow → Bool} {t : Tables} :
    t.RowsLive (t.withoutAliases gone) :=
  ⟨LiveOn.refl _ _, Or.inr List.filter_sublist⟩

/-- A document goes with or without its aliases, as the rules have it. -/
theorem rowsLive_deleteDocument (rules : Rules) (p : String) (t : Tables) :
    t.RowsLive (t.deleteDocument rules p) := by
  unfold deleteDocument
  split
  · refine ⟨Or.inr ?_, ?_⟩
    · show List.Sublist (if rules.references then _ else _ : Tables).documents t.documents
      split
      · rw [removeAliases_eq]
        exact List.filter_sublist
      · exact List.filter_sublist
    · show LiveOn AliasRow.key t.aliases (if rules.references then _ else _ : Tables).aliases
      split
      · rw [removeAliases_eq]
        exact Or.inr List.filter_sublist
      · exact LiveOn.refl _ _
  · exact RowsLive.refl t

/-- An accepted insert puts its row at the end, whatever rules are off. -/
theorem insertAlias_rows {rules : Rules} {row : AliasRow} {t t' : Tables}
    (h : t.insertAlias rules row = .ok t') :
    t'.documents = t.documents ∧ t'.aliases = t.aliases ++ [row] := by
  unfold insertAlias at h
  rw [claim_eq] at h
  -- whatever is checked, a row that fails is not written
  repeat (split at h; · cases h)
  change (if _ then _ else _) = _ at h
  split at h
  · cases h
  · injection h with h
    rw [← h]
    exact ⟨rfl, rfl⟩

theorem setFlag_keys {rules : Rules} {selects : AliasRow → Bool} {value : Int64} {t t' : Tables}
    (h : t.setFlag rules selects value = .ok t') :
    t'.documents = t.documents ∧ t'.aliases.map AliasRow.key = t.aliases.map AliasRow.key := by
  unfold setFlag at h
  split at h
  · injection h with h
    rw [← h]
    exact ⟨rfl, rfl⟩
  · split at h
    · cases h
    · split at h
      · cases h
      · injection h with h
        rw [← h]
        exact ⟨rfl, updateAliases_map fun _ => rfl⟩

/-- **No statement renames or moves a row**, whatever rules are off. -/
theorem rowsLive_change {rules : Rules} {t t' : Tables} {ch : RowChange} {n : Nat}
    (hok : t.change rules ch = .ok (t', n)) : t.RowsLive t' := by
  cases ch with
  | insertDocument row =>
    obtain ⟨-, -, rfl⟩ := insertDocument_eq_ok_iff.1 (map_count_eq_ok hok)
    exact ⟨.concat rfl, LiveOn.refl _ _⟩
  | deleteDocument p =>
    rw [eq_of_ok hok]
    exact rowsLive_deleteDocument rules p t
  | renameDocument p new =>
    rw [forbid_eq_ok hok]
    exact RowsLive.refl t
  | setVersion p v =>
    rw [eq_of_ok hok]
    exact rowsLive_updateDocument fun _ => rfl
  | setTimes p c u =>
    rw [eq_of_ok hok]
    exact rowsLive_updateDocument fun _ => rfl
  | insertAlias row =>
    obtain ⟨hdocs, haliases⟩ := insertAlias_rows (map_count_eq_ok hok)
    exact ⟨.of_map_eq (by rw [hdocs]), .concat (by rw [haliases])⟩
  | deleteAlias name =>
    rw [eq_of_ok hok, removeAliases_eq]
    exact rowsLive_withoutAliases
  | renameAlias name new =>
    rw [forbid_eq_ok hok]
    exact RowsLive.refl t
  | moveAlias name document =>
    rw [forbid_eq_ok hok]
    exact RowsLive.refl t
  | setId name text =>
    change (if _ then _ else _) = _ at hok
    split at hok
    · cases hok
    · rw [eq_of_ok hok]
      exact rowsLive_updateAliases fun _ => rfl
  | setFlag name value =>
    obtain ⟨hdocs, haliases⟩ := setFlag_keys (map_count_eq_ok hok)
    exact ⟨.of_map_eq (by rw [hdocs]), .of_map_eq haliases⟩
  | setPosition name value =>
    rw [eq_of_ok hok]
    exact rowsLive_updateAliases fun _ => rfl
  | clearPrimaries document =>
    rw [eq_of_ok hok]
    exact rowsLive_updateAliases fun _ => rfl
  | claimName name kind =>
    have hclaim := map_count_eq_ok hok
    unfold claim at hclaim
    repeat (split at hclaim; · cases hclaim)
    injection hclaim with hclaim
    rw [← hclaim]
    exact ⟨LiveOn.refl _ _, LiveOn.refl _ _⟩
  | releaseName name =>
    rw [eq_of_ok hok]
    exact ⟨LiveOn.refl _ _, LiveOn.refl _ _⟩
  | dropPrimaryIndex =>
    rw [eq_of_ok hok]
    exact ⟨LiveOn.refl _ _, LiveOn.refl _ _⟩

end Tables

end Namebook
