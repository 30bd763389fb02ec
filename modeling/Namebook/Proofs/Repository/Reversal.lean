/-
  Namebook.Proofs.Repository.Reversal
  ───────────────────────────────────
  **CHANGES THAT TAKE EACH OTHER BACK.**

  What one change writes another one can take back: a row that was added is removed, a flag that was
  moved away returns.  Only the counting goes on.  And a promotion that was granted has nothing more to
  do.

    • `withoutAliases_withAlias`, `Identity.flagMoved_back`, `touched_touched` — the statements;
    • `Identity.runOn_deleteAlias_added`, `runOn_promoteAlias_back` — the changes;
    • `Identity.runOn_promoteAlias_again` — a promotion once more.
-/
import Namebook.Proofs.Repository.Grant

namespace Namebook

namespace Tables

variable {t t' : Tables} {fresh : Fresh} {p n : String} {d : Document}

/-! ## §1. Statements. -/

/-- Of two countings the second one is seen. -/
theorem touched_touched (t : Tables) (p : String) (now now' version version' : Int64) :
    (t.touched p now version).touched p now' version' = t.touched p now' version' := by
  have hdocuments : ((t.touched p now version).touched p now' version').documents
      = (t.touched p now' version').documents := by
    show (t.documents.map _).map _ = t.documents.map _
    rw [List.map_map]
    refine List.map_congr_left fun e _ => ?_
    show (fun e : DocumentRow => if e.publicId == p then counted e now' version' else e)
      (if e.publicId == p then counted e now version else e) = _
    cases hp : e.publicId == p with
    | true => simp [hp, counted]
    | false => simp [hp]
  exact congrArg (fun documents => ({ t with documents } : Tables)) hdocuments

/-- **A row that was added is removed with its claim**, and nothing else. -/
theorem withoutAliases_withAlias {row : AliasRow} (hid : ∀ a ∈ t.aliases, a.id ≠ row.id)
    (hfree : ∀ m ∈ t.names, m.name ≠ row.name) :
    (t.withAlias row).withoutAliases (·.id == row.id) = t := by
  have hold : ∀ a ∈ t.aliases, (a.id == row.id) = false :=
    fun a ha => beq_eq_false_iff_ne.2 (hid a ha)
  have hkept : t.aliases.filter (fun a => !(a.id == row.id)) = t.aliases :=
    List.filter_eq_self.2 fun a ha => by rw [hold a ha]; rfl
  have hgone : t.aliases.filter (·.id == row.id) = [] :=
    List.filter_eq_nil_iff.2 fun a ha => by rw [hold a ha]; exact Bool.false_ne_true
  have haliases : (t.aliases ++ [row]).filter (fun a => !(a.id == row.id)) = t.aliases := by
    rw [List.filter_append, hkept]
    simp
  have hreleased : (t.aliases ++ [row]).filter (·.id == row.id) = [row] := by
    rw [List.filter_append, hgone]
    simp
  have hothers : t.names.filter (fun m => !(aliasEntry row == m)) = t.names := by
    refine List.filter_eq_self.2 fun m hm => ?_
    rw [Bool.not_eq_true', beq_eq_false_iff_ne]
    exact fun heq => hfree m hm (congrArg NameRow.name heq).symm
  have hnames : (t.names ++ [aliasEntry row]).filter
      (fun m => !((t.aliases ++ [row]).filter (·.id == row.id)).any fun a => aliasEntry a == m)
        = t.names := by
    rw [hreleased]
    simp only [List.any_cons, List.any_nil, Bool.or_false]
    rw [List.filter_append, hothers]
    simp
  exact congrArg₂ (fun names aliases => ({ t with names, aliases } : Tables)) hnames haliases

/-- Moving a flag changes the rows of aliases alone. -/
theorem flagMoved_eq (t : Tables) (p : String) (u : Uuid) :
    t.flagMoved p u = { t with aliases := t.aliases.map (promotedRow p u.render) } := by
  rw [← flagMoved_aliases]
  rfl

/-- Flags and versions are written apart. -/
theorem flagMoved_touched (t : Tables) (p q : String) (u : Uuid) (now version : Int64) :
    (t.touched p now version).flagMoved q u = (t.flagMoved q u).touched p now version := by
  rw [flagMoved_eq, flagMoved_eq]
  rfl

/-- A row after the flag was moved to `a` and back to the row `b` that had it. -/
theorem Identity.promotedRow_back {a b e : AliasRow} (h : t.Identity) (ha : a ∈ t.aliases)
    (hb : b ∈ t.aliases) (he : e ∈ t.aliases) (howner : a.document = p) (hdoc : b.document = p)
    (hunset : a.flag ≠ 1) (hset : b.flag = 1) :
    promotedRow p b.id (promotedRow p a.id e) = e := by
  by_cases hbid : e.id = b.id
  · -- the row that had the flag gets it back
    have heb : e = b := eq_of_key_eq h.ids he hb hbid
    obtain ⟨v, hv⟩ := promotedRow_eq p a.id e
    rw [hv, promotedRow, if_pos hbid]
    subst heb
    rw [← hset]
  · by_cases haid : e.id = a.id
    · -- the row that had got it loses it
      have hea : e = a := eq_of_key_eq h.ids he ha haid
      subst hea
      have hzero : e.flag = 0 := (h.sound e he).flag.resolve_right hunset
      have hpromoted : promotedRow p e.id e = { e with flag := 1 } := if_pos rfl
      rw [hpromoted, promotedRow, if_neg hbid, if_pos ⟨howner, rfl⟩, ← hzero]
    · -- no other row of the document had the flag
      have hclear : ¬(e.document = p ∧ e.flag = 1) := fun hprimary =>
        hbid (congrArg AliasRow.id
          (h.toIndexed.eq_of_primary he hb (hprimary.1.trans hdoc.symm) hprimary.2 hset))
      have hkept : promotedRow p a.id e = e := by rw [promotedRow, if_neg haid, if_neg hclear]
      rw [hkept, promotedRow, if_neg hbid, if_neg hclear]

/-- **A flag that was moved away returns**: all rows are as they were. -/
theorem Identity.flagMoved_back {a b : AliasRow} (h : t.Identity) (ha : a ∈ t.aliases)
    (hb : b ∈ t.aliases) (howner : a.document = p) (hdoc : b.document = p) (hunset : a.flag ≠ 1)
    (hset : b.flag = 1) : (t.flagMoved p a.decoded.id).flagMoved p b.decoded.id = t := by
  have hrows : (t.aliases.map (promotedRow p a.id)).map (promotedRow p b.id) = t.aliases := by
    rw [List.map_map]
    refine (List.map_congr_left fun e he => ?_).trans (List.map_id _)
    exact h.promotedRow_back ha hb he howner hdoc hunset hset
  rw [flagMoved_eq, flagMoved_eq, (h.sound a ha).render_decoded, (h.sound b hb).render_decoded]
  exact congrArg (fun aliases => ({ t with aliases } : Tables)) hrows

/-! ## §2. Changes. -/

/-- The tables as they were, but for two changes that the document `p` has counted. -/
def Restored (t t' : Tables) (p : String) (now : Int64) : Prop :=
  ∃ row version, t.document? p = some row ∧ version.toInt = row.version.toInt + 2 ∧
    t' = t.touched p now version

/-- Whether a document has a name for its primary alias. -/
def Leads (t : Tables) (p n : String) : Prop :=
  ∃ row, t.alias? n = some row ∧ row.document = p ∧ row.flag = 1

/-- A new alias that is primary is the only one. -/
theorem removable_newAlias (t : Tables) (fresh : Fresh) (p n : String) (position version : Int64) :
    ¬((t.newAlias fresh p n position).decoded.primary = true ∧
      ((t.aliasAdded fresh p n position version).aliasesOf p).length > 1) := by
  rintro ⟨hprimary, hmany⟩
  have hempty : t.aliasesOf p = [] := by
    have hset : (t.newAlias fresh p n position).flag = 1 := beq_iff_eq.1 hprimary
    rw [newAlias_flag] at hset
    split at hset
    next hnone => exact List.isEmpty_iff.1 hnone
    next => cases hset
  have hown : [t.newAlias fresh p n position].filter (·.document == p)
      = [t.newAlias fresh p n position] := by simp [newAlias, Rows.aliasRow]
  have hsole : (t.aliasAdded fresh p n position version).aliasesOf p
      = [t.newAlias fresh p n position] := by
    show (t.withAlias (t.newAlias fresh p n position)).aliasesOf p = _
    rw [aliasesOf_withAlias, hempty, hown, List.nil_append]
  rw [hsole] at hmany
  exact Nat.lt_irrefl 1 hmany

/-- The row goes as it came, and of the two countings the later one is seen. -/
theorem aliasRemoved_aliasAdded {position : Int64} (hadmits : t.Admits (t.newAlias fresh p n position))
    (later : Fresh) (version version' : Int64) :
    (t.aliasAdded fresh p n position version).aliasRemoved later p
        (t.newAlias fresh p n position).decoded.id version'
      = t.touched p later.now version' := by
  have hrender : (t.newAlias fresh p n position).decoded.id.render
      = (t.newAlias fresh p n position).id := (aliasRow_sound _ _).render_decoded
  unfold aliasRemoved
  rw [hrender]
  show (((t.withAlias (t.newAlias fresh p n position)).withoutAliases _).touched p _ _).touched
    p _ _ = _
  rw [withoutAliases_withAlias hadmits.id hadmits.unclaimed, touched_touched]

/-- **A removal takes an addition back.** -/
theorem Identity.runOn_deleteAlias_added (h : t.Identity)
    (hversion : ∀ row ∈ t.documents, row.publicId = p → row.version.toInt + 2 ≤ Integer.greatest)
    (hrun : (Work.createAlias fresh p n).runOn t = (.ok d, t')) (later : Fresh) :
    ∃ d' s, (Work.deleteAlias later p n).runOn t' = (.ok d', s) ∧ t.Restored s p later.now := by
  have hidentity : t'.Identity := h.createAlias hrun
  obtain ⟨-, -, position, row, version, -, hadmits, hrow, hcounted, rfl, -⟩ :=
    Work.createAlias_eq_ok_iff.1 hrun
  obtain ⟨hmem, hid⟩ := mem_of_document? hrow
  have hlimit := hversion row hmem hid
  obtain ⟨version', hversion'⟩ := Integer.exists_next (v := version) (by omega)
  have hrow' : (t.aliasAdded fresh p n position version).document? p
      = some (counted row fresh.now version) :=
    document?_touched (h.toClaims.withAlias hadmits.unclaimed) hrow fresh.now version
  have hnew : t.newAlias fresh p n position ∈ (t.aliasAdded fresh p n position version).aliases :=
    List.mem_append_right _ (List.mem_singleton.2 rfl)
  have hremoved := hidentity.runOn_deleteAlias later hrow' hnew rfl
    (t.removable_newAlias fresh p n position version) hversion'
  rw [aliasRemoved_aliasAdded hadmits] at hremoved
  exact ⟨_, _, hremoved, row, version', hrow, by omega, rfl⟩

/-- The row of an alias after a flag was moved. -/
theorem Identity.mem_promoted {a b : AliasRow} (h : t.Identity) (ha : a ∈ t.aliases)
    (hb : b ∈ t.aliases) (now version : Int64) :
    promotedRow p a.id b ∈ ((t.flagMoved p a.decoded.id).touched p now version).aliases := by
  show _ ∈ (t.flagMoved p a.decoded.id).aliases
  rw [flagMoved_aliases, (h.sound a ha).render_decoded]
  exact List.mem_map_of_mem hb

/-- **A promotion takes a promotion back.** -/
theorem Identity.runOn_promoteAlias_back {x y : String} (h : t.Identity)
    (hversion : ∀ row ∈ t.documents, row.publicId = p → row.version.toInt + 2 ≤ Integer.greatest)
    (hrun : (Work.promoteAlias fresh p x).runOn t = (.ok d, t')) (hbefore : t.Leads p y)
    (hafter : ¬t'.Leads p y) (later : Fresh) :
    ∃ d' s, (Work.promoteAlias later p y).runOn t' = (.ok d', s) ∧ t.Restored s p later.now := by
  have hidentity : t'.Identity := h.promoteAlias hrun
  obtain ⟨b, hb, hdoc, hset⟩ := hbefore
  obtain ⟨hbmem, rfl⟩ := mem_of_alias? hb
  obtain ⟨-, x, howned, -, hcase⟩ := Work.promoteAlias_eq_ok_iff.1 hrun
  obtain ⟨a, ha, howner, rfl⟩ := h.ownedAlias_eq_ok_iff.1 howned
  obtain ⟨hamem, -⟩ := mem_of_alias? ha
  rcases hcase with ⟨-, rfl⟩ | ⟨hunset, row, version, -, hrow, hcounted, rfl⟩
  · -- nothing was moved away
    exact absurd ⟨b, hb, hdoc, hset⟩ hafter
  · obtain ⟨hmem, hid⟩ := mem_of_document? hrow
    have hlimit := hversion row hmem hid
    obtain ⟨version', hversion'⟩ := Integer.exists_next (v := version) (by omega)
    have hrow' := document?_touched (h.flagMoved hamem howner).toClaims hrow fresh.now version
    have hmoved := h.mem_promoted hamem hbmem (p := p) fresh.now version
    obtain ⟨flag, hflag⟩ := promotedRow_eq p a.id b
    rw [hflag] at hmoved
    have hcleared : flag ≠ 1 := fun hone =>
      hafter ⟨_, hidentity.alias?_eq_some_iff.2 ⟨hmoved, rfl⟩, hdoc, hone⟩
    have hback := hidentity.runOn_promoteAlias later hrow' hmoved hdoc hcleared hversion'
    have hsame : ({ b with flag } : AliasRow).decoded.id = b.decoded.id := rfl
    rw [hsame, flagMoved_touched, touched_touched,
      h.flagMoved_back hamem hbmem howner hdoc (beq_eq_false_iff_ne.1 hunset) hset] at hback
    exact ⟨_, _, hback, row, version', hrow, by omega, rfl⟩

/-- **A promotion once more** changes nothing and returns the same. -/
theorem Identity.runOn_promoteAlias_again (h : t.Identity)
    (hrun : (Work.promoteAlias fresh p n).runOn t = (.ok d, t')) (later : Fresh) :
    (Work.promoteAlias later p n).runOn t' = (.ok d, t') := by
  have hidentity : t'.Identity := h.promoteAlias hrun
  obtain ⟨hdoc, x, howned, hload, hcase⟩ := Work.promoteAlias_eq_ok_iff.1 hrun
  obtain ⟨a, ha, howner, rfl⟩ := h.ownedAlias_eq_ok_iff.1 howned
  obtain ⟨hmem, rfl⟩ := mem_of_alias? ha
  rcases hcase with ⟨hset, rfl⟩ | ⟨-, row, version, -, hrow, -, rfl⟩
  · exact Work.promoteAlias_eq_ok_iff.2 ⟨hdoc, _, howned, hload, Or.inl ⟨hset, rfl⟩⟩
  · have hrow' := document?_touched (h.flagMoved hmem howner).toClaims hrow fresh.now version
    have hmoved := h.mem_promoted hmem hmem (p := p) fresh.now version
    have hset : promotedRow p a.id a = { a with flag := 1 } := if_pos rfl
    rw [hset] at hmoved
    have hagain := hidentity.runOn_promoteAlias_primary later hrow' hmoved howner rfl
    rw [hidentity.loadRequired_eq hrow'] at hload
    rw [← Except.ok.inj hload]
    exact hagain

end Tables

end Namebook
