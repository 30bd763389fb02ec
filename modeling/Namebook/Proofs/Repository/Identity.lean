/-
  Namebook.Proofs.Repository.Identity
  ───────────────────────────────────
  **REQUESTS KEEP DOCUMENTS IN ORDER.**

    • `lt_nextPosition` — a new alias stands behind all others of its document;
    • `Identity.withDocument`, `withAlias`, `withoutRow`, `flagMoved`, `deleteDocument` — each form of
      a change keeps the invariant, under the condition that the library checks before it;
    • `Identity.granted` — so does every granted request.
-/
import Namebook.Proofs.Store.Order
import Namebook.Proofs.Repository.Loading

namespace Namebook

namespace Tables

variable {t t' : Tables} {fresh : Fresh} {p n : String} {d : Document}

/-! ## §1. Positions. -/

/-- No row stands beyond the greatest position. -/
theorem le_maxPosition {rows : List AliasRow} {a : AliasRow} (ha : a ∈ rows) :
    ∃ m, Rows.maxPosition? rows = some m ∧ a.position.toInt ≤ m.toInt := by
  induction rows with
  | nil => cases ha
  | cons b rows ih =>
    unfold Rows.maxPosition?
    cases hmax : Rows.maxPosition? rows with
    | none =>
      refine ⟨b.position, rfl, ?_⟩
      rcases List.mem_cons.1 ha with rfl | ha
      · exact Int.le_refl _
      · -- a list with a row in it has a greatest position
        obtain ⟨m, hm, -⟩ := ih ha
        rw [hmax] at hm
        cases hm
    | some q =>
      refine ⟨_, rfl, ?_⟩
      have hrest : a ∈ rows → a.position.toInt ≤ q.toInt := by
        intro hmem
        obtain ⟨m, hm, hle⟩ := ih hmem
        rw [hmax] at hm
        cases hm
        exact hle
      by_cases hlt : q < b.position
      · have hlt' := Int64.lt_iff_toInt_lt.1 hlt
        rw [if_pos hlt]
        rcases List.mem_cons.1 ha with rfl | ha
        · exact Int.le_refl _
        · have hle := hrest ha
          omega
      · have hge : ¬q.toInt < b.position.toInt := fun h => hlt (Int64.lt_iff_toInt_lt.2 h)
        rw [if_neg hlt]
        rcases List.mem_cons.1 ha with rfl | ha
        · omega
        · exact hrest ha

/-- **The next position is beyond all positions of the document.** -/
theorem lt_nextPosition {position : Int64} (h : Rows.nextPosition t p = .ok position) :
    ∀ a ∈ t.aliasesOf p, a.position.toInt < position.toInt := by
  intro a ha
  obtain ⟨m, hm, hle⟩ := le_maxPosition ha
  unfold Rows.nextPosition at h
  rw [hm] at h
  dsimp only [Option.getD_some] at h
  split at h
  next q hnext =>
    injection h with h
    subst h
    have heq := Integer.next?_eq_some_iff.1 hnext
    omega
  next => cases h

/-- Aliases of one document stand apart. -/
theorem Identity.apart (h : t.Identity) (p : String) : Apart (t.aliasesOf p) := by
  refine (h.positions.filter _).imp_of_mem ?_
  intro a b ha hb hab
  have hdoc : a.document = b.document := (mem_aliasesOf.1 ha).2.trans (mem_aliasesOf.1 hb).2.symm
  exact hab hdoc

/-! ## §2. Statements. -/

theorem aliasRow_sound (a : Alias) (position : Int64) : (Rows.aliasRow a position).Sound where
  flag := by
    unfold Rows.aliasRow
    cases a.primary
    · exact Or.inl rfl
    · exact Or.inr rfl
  canonical := ⟨a.id, rfl⟩

namespace Readable

theorem withDocument {row : DocumentRow} (h : t.Readable)
    (hfree : ∀ n ∈ t.names, n.name ≠ row.publicId) : (t.withDocument row).Readable where
  toIndexed := h.toIndexed.withDocument hfree
  sound := h.sound
  positions := h.positions

theorem withAlias {row : AliasRow} (h : t.Readable) (hadmits : t.Admits row) (hrow : row.Sound)
    (hposition : ∀ a ∈ t.aliases, a.document = row.document → a.position ≠ row.position) :
    (t.withAlias row).Readable where
  toIndexed := h.toIndexed.withAlias hadmits
  sound := by
    intro a ha
    rcases List.mem_append.1 ha with ha | ha
    · exact h.sound a ha
    · rw [List.mem_singleton.1 ha]
      exact hrow
  positions := Indexed.pairwise_withAlias h.positions hposition

theorem touched (h : t.Readable) (p : String) (now version : Int64) :
    (t.touched p now version).Readable where
  toIndexed := h.toIndexed.touched p now version
  sound := h.sound
  positions := h.positions

theorem withoutAliases {gone : AliasRow → Bool} (h : t.Readable) :
    (t.withoutAliases gone).Readable where
  toIndexed := h.toIndexed.withoutAliases
  sound := fun a ha => h.sound a (List.mem_filter.1 ha).1
  positions := h.positions.filter _

/-- Flags may change as long as the rules allow it. -/
theorem updateFlags {selects : AliasRow → Bool} {value : Int64} (h : t.Readable)
    (hvalue : value = 0 ∨ value = 1)
    (hindexed : (t.updateAliases selects ({ · with flag := value })).Indexed) :
    (t.updateAliases selects ({ · with flag := value })).Readable where
  toIndexed := hindexed
  sound := by
    intro a ha
    obtain ⟨b, hb, rfl⟩ := List.mem_map.1 ha
    split
    · exact ⟨hvalue, (h.sound b hb).canonical⟩
    · exact h.sound b hb
  positions := by
    -- owner and position are read by the rule, and neither is the flag
    have hmap : (t.updateAliases selects ({ · with flag := value })).aliases.map
        (fun a => (a.document, a.position)) = t.aliases.map (fun a => (a.document, a.position)) :=
      updateAliases_map fun _ => rfl
    have hpair : (t.aliases.map (fun a => (a.document, a.position))).Pairwise
        fun x y => x.1 = y.1 → x.2 ≠ y.2 := List.pairwise_map.2 h.positions
    rw [← hmap] at hpair
    exact List.pairwise_map.1 hpair

theorem demoteAll (h : t.Readable) (p : String) : (Rows.demoteAll p t).Readable :=
  h.updateFlags (Or.inl rfl) (h.toIndexed.demoteAll p)

end Readable

/-- A document goes with all its aliases, so no other one loses its primary alias. -/
theorem Identity.withoutDocument (h : t.Identity) : (t.withoutDocument p).Identity where
  toReadable :=
    ⟨h.toIndexed.withoutDocument, fun a ha => h.sound a (List.mem_filter.1 ha).1,
      h.positions.filter _⟩
  primary := by
    intro a ha
    obtain ⟨hmem, hkeep⟩ := List.mem_filter.1 ha
    obtain ⟨b, hb, hdoc, hset⟩ := h.primary a hmem
    refine ⟨b, List.mem_filter.2 ⟨hb, ?_⟩, hdoc, hset⟩
    show (!(b.document == p)) = true
    rw [hdoc]
    exact hkeep
  named := fun d hd => h.named d (List.mem_filter.1 hd).1

theorem Identity.deleteDocument (h : t.Identity) : (t.deleteDocument Rules.all p).Identity := by
  rw [deleteDocument_eq]
  split
  · exact h.withoutDocument
  · exact h

/-! ## §3. Requests. -/

theorem Identity.touched (h : t.Identity) (p : String) (now version : Int64) :
    (t.touched p now version).Identity where
  toReadable := h.toReadable.touched p now version
  primary := h.primary
  named := by
    intro e he
    have hmem : e.publicId ∈ (t.touched p now version).documents.map DocumentRow.publicId :=
      List.mem_map.2 ⟨e, he, rfl⟩
    rw [touched_publicIds] at hmem
    obtain ⟨e', he', heq⟩ := List.mem_map.1 hmem
    rw [← heq]
    exact h.named e' he'

theorem Identity.withDocument {row : DocumentRow} (h : t.Identity)
    (hfree : ∀ n ∈ t.names, n.name ≠ row.publicId) (hnamed : Text.isBlank row.publicId = false) :
    (t.withDocument row).Identity where
  toReadable := h.toReadable.withDocument hfree
  primary := h.primary
  named := by
    intro e he
    rcases List.mem_append.1 he with he | he
    · exact h.named e he
    · rw [List.mem_singleton.1 he]
      exact hnamed

/-- A new row beyond all positions, primary if it is the first. -/
theorem Identity.withAlias {row : AliasRow} (h : t.Identity) (hadmits : t.Admits row)
    (hrow : row.Sound) (hlast : ∀ a ∈ t.aliasesOf row.document, a.position < row.position)
    (hfirst : t.aliasesOf row.document = [] → row.flag = 1) : (t.withAlias row).Identity where
  toReadable := by
    refine h.toReadable.withAlias hadmits hrow ?_
    intro a ha hdoc heq
    have hlt := hlast a (mem_aliasesOf.2 ⟨ha, hdoc⟩)
    rw [heq] at hlt
    exact Int64.lt_irrefl hlt
  primary := by
    -- the new row is primary itself, or it has an elder one, which has a primary one
    have hold : ∀ a ∈ t.aliases, ∃ b ∈ (t.withAlias row).aliases,
        b.document = a.document ∧ b.flag = 1 := by
      intro a ha
      obtain ⟨b, hb, hb'⟩ := h.primary a ha
      exact ⟨b, List.mem_append_left _ hb, hb'⟩
    intro a ha
    rcases List.mem_append.1 ha with ha | ha
    · exact hold a ha
    · rw [List.mem_singleton.1 ha]
      by_cases hempty : t.aliasesOf row.document = []
      · exact ⟨row, List.mem_append_right _ (List.mem_singleton.2 rfl), rfl, hfirst hempty⟩
      · obtain ⟨c, hc⟩ := List.exists_mem_of_ne_nil _ hempty
        obtain ⟨hmem, hdoc⟩ := mem_aliasesOf.1 hc
        rw [← hdoc]
        exact hold c hmem
  named := h.named

/-- The row of an alias is the only one with its id. -/
theorem Identity.eq_of_id (h : t.Identity) {a b : AliasRow} (ha : a ∈ t.aliases)
    (hb : b ∈ t.aliases) (hid : b.id = a.decoded.id.render) : b = a := by
  rw [(h.sound a ha).render_decoded] at hid
  exact eq_of_key_eq h.ids hb ha hid

/-- A row that goes is the last one of its document, or not the primary one. -/
theorem Identity.withoutRow {a : AliasRow} (h : t.Identity) (ha : a ∈ t.aliases)
    (hsole : a.flag = 1 → ∀ b ∈ t.aliasesOf a.document, b = a) :
    (t.withoutAliases (·.id == a.decoded.id.render)).Identity where
  toReadable := h.toReadable.withoutAliases
  primary := by
    intro b hb
    obtain ⟨hmem, hkeep⟩ := List.mem_filter.1 hb
    obtain ⟨c, hc, hdoc, hset⟩ := h.primary b hmem
    refine ⟨c, List.mem_filter.2 ⟨hc, ?_⟩, hdoc, hset⟩
    rw [Bool.not_eq_true', beq_eq_false_iff_ne] at hkeep ⊢
    intro hid
    -- if the primary row of the document goes, `b` was its only row and goes with it
    have hca := h.eq_of_id ha hc hid
    subst hca
    have hbc := hsole hset b (mem_aliasesOf.2 ⟨hmem, hdoc.symm⟩)
    rw [hbc] at hkeep
    exact hkeep hid
  named := h.named

/-- **The flag of a document can be moved to any of its rows**: two primary rows would be those of one
document, and all rows of this one were cleared. -/
theorem setFlag_demoteAll {a : AliasRow} {u : Uuid} (hids : t.aliases.Pairwise fun a b => a.id ≠ b.id)
    (ha : a ∈ t.aliases) (hdoc : a.document = p) (hid : a.id = u.render) :
    (Rows.demoteAll p t).setFlag Rules.all (·.id == u.render) 1 = .ok (t.flagMoved p u) := by
  rw [setFlag_eq_ok_iff]
  refine ⟨?_, rfl⟩
  intro row hrow
  refine ⟨rfl, ?_⟩
  -- the row that is found belongs to `p`, where nothing is primary any more
  intro _ _ b hb _ hsame
  obtain ⟨b₀, hb₀, rfl⟩ := List.mem_map.1 hb
  obtain ⟨row₀, hrow₀, rfl⟩ := List.mem_map.1 (List.mem_of_find?_eq_some hrow)
  have hkeys : ∀ c : AliasRow, (if c.document == p && c.flag == 1 then { c with flag := 0 }
      else c).document = c.document ∧ (if c.document == p && c.flag == 1 then { c with flag := 0 }
      else c).id = c.id := by
    intro c
    split <;> exact ⟨rfl, rfl⟩
  have hfound := List.find?_some hrow
  rw [(hkeys row₀).2, beq_iff_eq] at hfound
  have hrowa : row₀ = a := eq_of_key_eq hids hrow₀ ha (hfound.trans hid.symm)
  subst hrowa
  rw [(hkeys b₀).1, (hkeys row₀).1, hdoc] at hsame
  by_cases hset : b₀.flag = 1
  · simp [hsame, hset]
  · simp [hset]

theorem Identity.setFlag_demoteAll {a : AliasRow} (h : t.Identity) (ha : a ∈ t.aliases)
    (hdoc : a.document = p) :
    (Rows.demoteAll p t).setFlag Rules.all (·.id == a.decoded.id.render) 1
      = .ok (t.flagMoved p a.decoded.id) :=
  Tables.setFlag_demoteAll h.ids ha hdoc (h.sound a ha).render_decoded.symm

theorem Identity.flagMoved {a : AliasRow} (h : t.Identity) (ha : a ∈ t.aliases)
    (hdoc : a.document = p) : (t.flagMoved p a.decoded.id).Identity where
  toReadable := by
    have hindexed := (h.toIndexed.demoteAll p).setFlag id_eq_of_id (h.setFlag_demoteAll ha hdoc)
    exact (h.toReadable.demoteAll p).updateFlags (Or.inr rfl) hindexed
  primary := by
    have hid := (h.sound a ha).render_decoded
    intro b hb
    rw [flagMoved_aliases, hid] at hb ⊢
    obtain ⟨b₀, hb₀, rfl⟩ := List.mem_map.1 hb
    rw [promotedRow_document]
    -- in the document itself the chosen row is primary now, elsewhere flags stay
    by_cases hsame : b₀.document = p
    · refine ⟨promotedRow p a.id a, List.mem_map.2 ⟨a, ha, rfl⟩, ?_, ?_⟩
      · rw [promotedRow_document, hdoc, hsame]
      · unfold promotedRow
        rw [if_pos rfl]
    · obtain ⟨c, hc, hcdoc, hset⟩ := h.primary b₀ hb₀
      refine ⟨promotedRow p a.id c, List.mem_map.2 ⟨c, hc, rfl⟩, ?_, ?_⟩
      · rw [promotedRow_document]
        exact hcdoc
      · exact promotedRow_flag_of_ne (fun hp => hsame (hcdoc.symm.trans hp)) hset
  named := h.named

/-- The row of a new alias at the next position. -/
theorem Identity.withNewAlias {position : Int64} (h : t.Identity)
    (hposition : Rows.nextPosition t p = .ok position)
    (hadmits : t.Admits (t.newAlias fresh p n position)) :
    (t.withAlias (t.newAlias fresh p n position)).Identity := by
  refine h.withAlias hadmits (aliasRow_sound _ _) ?_ ?_
  · intro a ha
    exact Int64.lt_iff_toInt_lt.2 (lt_nextPosition hposition a ha)
  · intro hempty
    have hnone : t.aliasesOf p = [] := hempty
    rw [newAlias_flag, hnone]
    rfl

theorem Identity.createAlias (h : t.Identity)
    (hrun : (Work.createAlias fresh p n).runOn t = (.ok d, t')) : t'.Identity := by
  obtain ⟨-, -, position, row, version, hposition, hadmits, -, -, rfl, -⟩ :=
    Work.createAlias_eq_ok_iff.1 hrun
  exact (h.withNewAlias hposition hadmits).touched _ _ _

/-- What may be removed is not primary, or has no siblings. -/
theorem sole_of_removable {a : AliasRow} (ha : a ∈ t.aliasesOf p)
    (h : ¬(a.decoded.primary = true ∧ (t.aliasesOf p).length > 1)) :
    a.flag = 1 → ∀ b ∈ t.aliasesOf p, b = a := by
  intro hset b hb
  have hprimary : a.decoded.primary = true := beq_iff_eq.2 hset
  have hone : (t.aliasesOf p).length ≤ 1 := by
    have hnot : ¬(t.aliasesOf p).length > 1 := fun hmany => h ⟨hprimary, hmany⟩
    omega
  match hrows : t.aliasesOf p, hone with
  | [], _ =>
    rw [hrows] at ha
    cases ha
  | [c], _ =>
    rw [hrows] at ha hb
    rw [List.mem_singleton.1 ha, List.mem_singleton.1 hb]

theorem Identity.deleteAlias (h : t.Identity)
    (hrun : (Work.deleteAlias fresh p n).runOn t = (.ok d, t')) : t'.Identity := by
  obtain ⟨-, x, row, version, howned, hguard, -, -, rfl, -⟩ := Work.deleteAlias_eq_ok_iff.1 hrun
  obtain ⟨a, ha, hdoc, rfl⟩ := h.ownedAlias_eq_ok_iff.1 howned
  obtain ⟨hmem, -⟩ := mem_of_alias? ha
  have hsole := sole_of_removable (mem_aliasesOf.2 ⟨hmem, hdoc⟩) hguard
  rw [← hdoc] at hsole
  exact (h.withoutRow hmem hsole).touched _ _ _

theorem Identity.promoteAlias (h : t.Identity)
    (hrun : (Work.promoteAlias fresh p n).runOn t = (.ok d, t')) : t'.Identity := by
  obtain ⟨-, x, howned, -, hcase⟩ := Work.promoteAlias_eq_ok_iff.1 hrun
  obtain ⟨a, ha, hdoc, rfl⟩ := h.ownedAlias_eq_ok_iff.1 howned
  rcases hcase with ⟨-, rfl⟩ | ⟨-, row, version, -, -, -, rfl⟩
  · exact h
  · exact (h.flagMoved (mem_of_alias? ha).1 hdoc).touched _ _ _

/-- No alias belongs to a document that is not there. -/
theorem Indexed.aliasesOf_of_missing (h : t.Indexed) (hmissing : ∀ e ∈ t.documents, e.publicId ≠ p) :
    t.aliasesOf p = [] := by
  rw [aliasesOf, List.filter_eq_nil_iff]
  intro a ha hdoc
  obtain ⟨e, he, hid⟩ := hasDocument_iff.1 (h.owners a ha)
  exact hmissing e he (hid.trans (beq_iff_eq.1 hdoc))

theorem Identity.createDocument {initial : Option String} (h : t.Identity)
    (hrun : (Work.createDocument fresh p initial).runOn t = (.ok d, t')) : t'.Identity := by
  cases initial with
  | none =>
    obtain ⟨-, hfree, rfl, hload⟩ := Work.createDocument_none_eq_ok_iff.1 hrun
    have hsound : ∀ a ∈ (t.withDocument ⟨p, 0, fresh.now, fresh.now⟩).aliases, a.Sound := h.sound
    exact h.withDocument hfree (isBlank_of_loaded hsound hload)
  | some n =>
    obtain ⟨hids, hfree, -, -, hadmits, rfl, hload⟩ := Work.createDocument_some_eq_ok_iff.1 hrun
    have hnone := h.toIndexed.aliasesOf_of_missing hids
    have hsound : ∀ a ∈ t.aliases ++ [Rows.aliasRow
        { id := fresh.id, name := n, primary := true, document := p } 0], a.Sound := by
      intro a ha
      rcases List.mem_append.1 ha with ha | ha
      · exact h.sound a ha
      · rw [List.mem_singleton.1 ha]
        exact aliasRow_sound _ _
    have hnamed := isBlank_of_loaded hsound hload
    refine (h.withDocument hfree hnamed).withAlias hadmits (aliasRow_sound _ _) ?_ fun _ => rfl
    intro a ha
    have hmem : a ∈ t.aliasesOf p := ha
    rw [hnone] at hmem
    cases hmem

/-- **A granted change keeps the invariant.** -/
theorem Identity.granted {r : Request} {w : Work Document} (h : t.Identity)
    (hwork : r.work? fresh = some w) (hrun : w.runOn t = (.ok d, t')) : t'.Identity := by
  cases r with
  | createAlias p n => cases hwork; exact h.createAlias hrun
  | deleteAlias p n => cases hwork; exact h.deleteAlias hrun
  | promoteAlias p n => cases hwork; exact h.promoteAlias hrun
  | createDocument p initial => cases hwork; exact h.createDocument hrun
  | _ => cases hwork

end Tables

end Namebook
