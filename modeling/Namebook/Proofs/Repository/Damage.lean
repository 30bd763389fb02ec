/-
  Namebook.Proofs.Repository.Damage
  ─────────────────────────────────
  **DAMAGED DOCUMENTS — no request that leaves the damage in place is granted.**

  A document is damaged if its alias rows cannot be decoded or add up to a document with a fault.
  Changes look at the document only after they are made, so whether one is granted depends on whether
  it leaves the document damaged:

    • `Whole` — the rows of a document without fault, said row by row; `damaged_iff`;
    • `Whole.of_newAlias` — a new alias mends nothing;
    • `whole_flagMoved_iff`, `whole_withoutAliases_iff` — what a promotion and a removal mend, said by
      the rows that they find;
    • `…_refused` — requests about a damaged document are refused with a fault;
    • `deleteAlias_of_mends`, `promoteAlias_of_mends` — changes that mend it are carried out.
-/
import Namebook.Proofs.Repository.Decoding
import Namebook.Proofs.Repository.Identity
import Namebook.Proofs.Repository.Refusal

namespace Namebook

namespace Tables

/-! ## §1. Damaged documents. -/

/-- **A damaged document** is stored, but its alias rows cannot be decoded, or add up to a document
with a fault. -/
def Damaged (t : Tables) (p : String) : Prop :=
  ∃ row, t.document? p = some row ∧ ∀ d, Rows.assemble t row = .ok d → d.validate ≠ .ok ()

/-- The rows of a document that has no fault. -/
structure Whole (t : Tables) (p : String) : Prop where
  named : Text.isBlank p = false
  decodable : ∀ row ∈ t.aliasesOf p, ∃ a, Rows.decodeAlias row = .ok a
  apart : ∀ row ∈ t.aliasesOf p, row.name ≠ p
  primary : t.aliasesOf p = [] ∨ (t.aliasesOf p).countP (·.flag == 1) = 1

variable {t : Tables} {p : String}

/-- **Rows that are decoded are whole exactly if they add up to a document without fault.** -/
theorem fault?_eq_none_iff_whole {d : Document}
    (h : (sortRows (t.aliasesOf d.publicId)).mapM Rows.decodeAlias = .ok d.aliases) :
    d.fault? = none ↔ t.Whole d.publicId := by
  have hread := Rows.mapM_decodeAlias_eq_ok_iff.1 h
  have hperm := perm_sortRows (t.aliasesOf d.publicId)
  -- row by row, the aliases are what the rows say
  have hrows : (∀ a ∈ d.aliases, a.document = d.publicId ∧ a.name ≠ d.publicId) ↔
      ∀ row ∈ t.aliasesOf d.publicId, row.document = d.publicId ∧ row.name ≠ d.publicId := by
    have hmap := congrArg (fun l => ∀ x ∈ l, x.2.2.1 = d.publicId ∧ x.2.1 ≠ d.publicId) hread
    simp only [List.forall_mem_map, eq_iff_iff] at hmap
    rw [← hmap]
    exact forall_congr' fun row => imp_congr_left hperm.mem_iff
  have hcount : d.primaryCount = (t.aliasesOf d.publicId).countP (·.flag == 1) := by
    have hmap := congrArg (List.countP fun x => x.2.2.2 == (1 : Int64)) hread
    rw [List.countP_map, List.countP_map] at hmap
    rw [← hperm.countP_eq]
    refine Eq.trans (List.countP_congr fun a _ => ?_) hmap.symm
    cases hprimary : a.primary <;> simp [hprimary]
  have hempty : d.aliases = [] ↔ t.aliasesOf d.publicId = [] := by
    have hlength := congrArg List.length hread
    rw [List.length_map, List.length_map, hperm.length_eq] at hlength
    rw [← List.length_eq_zero_iff, ← hlength, List.length_eq_zero_iff]
  rw [Document.fault?_eq_none_iff, hrows, hcount, hempty]
  constructor
  · rintro ⟨hnamed, haliases, hprimary⟩
    have hdecodable := Rows.exists_mapM_decodeAlias_iff.1 ⟨_, h⟩
    exact ⟨hnamed, fun row hrow => hdecodable row (hperm.mem_iff.2 hrow),
      fun row hrow => (haliases row hrow).2, hprimary⟩
  · intro hwhole
    exact ⟨hwhole.named, fun row hrow => ⟨(mem_aliasesOf.1 hrow).2, hwhole.apart row hrow⟩,
      hwhole.primary⟩

/-- A stored document is damaged exactly if its rows are not whole. -/
theorem damaged_iff {row : DocumentRow} (hrow : t.document? p = some row) :
    t.Damaged p ↔ ¬t.Whole p := by
  obtain ⟨-, rfl⟩ := mem_of_document? hrow
  constructor
  · rintro ⟨row', hrow', hfault⟩ hwhole
    cases hrow.symm.trans hrow'
    obtain ⟨as, has⟩ := Rows.exists_mapM_decodeAlias_iff.2 fun a ha =>
      hwhole.decodable a ((perm_sortRows _).mem_iff.1 ha)
    let d : Document := ⟨row.publicId, as, row.version, row.createdAt, row.updatedAt⟩
    refine hfault d (Rows.assemble_eq_ok_iff.2 ⟨has, rfl⟩) (Document.validate_eq_ok_iff.2 ?_)
    exact (fault?_eq_none_iff_whole has).2 hwhole
  · intro hnot
    refine ⟨row, hrow, fun d hassemble hvalid => hnot ?_⟩
    obtain ⟨has, rfl⟩ := Rows.assemble_eq_ok_iff.1 hassemble
    exact (fault?_eq_none_iff_whole has).1 (Document.validate_eq_ok_iff.1 hvalid)

/-- A document that is loaded has whole rows. -/
theorem whole_of_loadRequired {d : Document} (h : Rows.loadRequired t p = .ok d) : t.Whole p := by
  obtain ⟨row, hrow, hassemble, hvalid⟩ :=
    loadDocument_eq_some_iff.1 (loadRequired_eq_ok_iff_loadDocument.1 h)
  by_contra hnot
  obtain ⟨row', hrow', hfault⟩ := (damaged_iff hrow).2 hnot
  cases hrow.symm.trans hrow'
  exact hfault d hassemble hvalid

/-- Whole rows are loaded. -/
theorem Whole.exists_loadRequired (h : t.Whole p) (hdoc : t.hasDocument p = true) :
    ∃ d, Rows.loadRequired t p = .ok d := by
  cases hrow : t.document? p with
  | none =>
    rw [hasDocument_of_none hrow] at hdoc
    cases hdoc
  | some row =>
    -- if nothing were loaded, the document would be damaged
    by_contra hnone
    refine (damaged_iff hrow).1 ⟨row, hrow, fun d hassemble hvalid => hnone ⟨d, ?_⟩⟩ h
    exact loadRequired_eq_ok_iff_loadDocument.2
      (loadDocument_eq_some_iff.2 ⟨row, hrow, hassemble, hvalid⟩)

namespace Damaged

theorem hasDocument (h : t.Damaged p) : t.hasDocument p = true := by
  obtain ⟨row, hrow, -⟩ := h
  exact hasDocument_of_document? hrow

theorem not_whole (h : t.Damaged p) : ¬t.Whole p := by
  obtain ⟨row, hrow, -⟩ := id h
  exact (damaged_iff hrow).1 h

/-- Where the documents stay and the rows are not made whole, the damage lasts. -/
theorem lasts (h : t.Damaged p) {t' : Tables} (hdocs : t'.documents = t.documents)
    (hnot : ¬t'.Whole p) : t'.Damaged p := by
  obtain ⟨row, hrow, -⟩ := h
  have hrow' : t'.document? p = some row := by
    unfold document?
    rw [hdocs]
    exact hrow
  exact (damaged_iff hrow').2 hnot

/-- A damaged document is not loaded. -/
theorem loadDocument (h : t.Damaged p) : ∃ e, Rows.loadDocument t p = .error e ∧ e.IsFault := by
  have hfault := Rows.loadDocument_blames t p
  cases hload : Rows.loadDocument t p with
  | error e =>
    rw [hload] at hfault
    exact ⟨e, rfl, hfault⟩
  | ok found =>
    cases found with
    | none =>
      have hmissing := hasDocument_of_none (loadDocument_eq_none_iff.1 hload)
      rw [h.hasDocument] at hmissing
      cases hmissing
    | some d =>
      exact absurd (whole_of_loadRequired (loadRequired_eq_ok_iff_loadDocument.2 hload)) h.not_whole

end Damaged

/-- Counting a change touches no alias row. -/
theorem whole_touched_iff {q : String} {now version : Int64} :
    (t.touched q now version).Whole p ↔ t.Whole p :=
  ⟨fun h => ⟨h.named, h.decodable, h.apart, h.primary⟩,
    fun h => ⟨h.named, h.decodable, h.apart, h.primary⟩⟩

/-- **A new alias mends nothing.**  It is primary only where there was no alias, and so no damage but
to the public id. -/
theorem Whole.of_newAlias {fresh : Fresh} {n : String} {position : Int64}
    (h : (t.withAlias (t.newAlias fresh p n position)).Whole p) : t.Whole p := by
  have hrows : (t.withAlias (t.newAlias fresh p n position)).aliasesOf p
      = t.aliasesOf p ++ [t.newAlias fresh p n position] := by
    have hown : [t.newAlias fresh p n position].filter (·.document == p)
        = [t.newAlias fresh p n position] := List.filter_cons_of_pos (beq_self_eq_true p)
    rw [aliasesOf_withAlias, hown]
  obtain ⟨hnamed, hdecodable, hapart, hprimary⟩ := h
  rw [hrows] at hdecodable hapart hprimary
  refine ⟨hnamed, fun row hrow => hdecodable row (List.mem_append_left _ hrow),
    fun row hrow => hapart row (List.mem_append_left _ hrow), ?_⟩
  by_cases hempty : t.aliasesOf p = []
  · exact Or.inl hempty
  · have hflag : (t.newAlias fresh p n position).flag = 0 := by
      rw [newAlias_flag, if_neg (fun h => hempty (List.isEmpty_iff.1 h))]
    rcases hprimary with hnone | hone
    · exact absurd (List.append_eq_nil_iff.1 hnone).1 hempty
    · rw [List.countP_append, List.countP_singleton, hflag] at hone
      exact Or.inr hone

/-! ### What a change can mend. -/

/-- The flag of a row after the primary flag of its document was moved. -/
theorem promotedRow_flag (id : String) {a : AliasRow} (hdoc : a.document = p) :
    (promotedRow p id a).flag = if a.id = id then 1 else if a.flag = 1 then 0 else a.flag := by
  unfold promotedRow
  by_cases hid : a.id = id
  · rw [if_pos hid, if_pos hid]
  · rw [if_neg hid, if_neg hid]
    by_cases hflag : a.flag = 1
    · rw [if_pos ⟨hdoc, hflag⟩, if_pos hflag]
    · rw [if_neg (fun h => hflag h.2), if_neg hflag]

/-- **The damage that a promotion mends**, said by the rows of the document: how many of them are primary
does not matter, and the flag of the promoted row may be any integer. -/
structure PromotionMends (t : Tables) (p : String) (u : Uuid) : Prop where
  named : Text.isBlank p = false
  ids : ∀ row ∈ t.aliasesOf p, (Uuid.parse? row.id).isSome = true
  apart : ∀ row ∈ t.aliasesOf p, row.name ≠ p
  /-- No other row has a flag that is none. -/
  flags : ∀ row ∈ t.aliasesOf p, row.id = u.render ∨ row.flag = 0 ∨ row.flag = 1
  /-- The id stands once among the rows in its canonical form. -/
  once : t.aliasesOf p = [] ∨ (t.aliasesOf p).countP (·.id == u.render) = 1

/-- The row that a promotion writes is one of the document. -/
theorem PromotionMends.exists_target {u : Uuid} (h : t.PromotionMends p u)
    (hsome : t.aliasesOf p ≠ []) : ∃ target ∈ t.aliasesOf p, target.id = u.render := by
  have hone := h.once.resolve_left hsome
  have hpos : 0 < (t.aliasesOf p).countP (·.id == u.render) := by omega
  obtain ⟨target, htarget, hid⟩ := List.countP_pos_iff.1 hpos
  exact ⟨target, htarget, beq_iff_eq.1 hid⟩

/-- **The damage that a removal mends**, said by the rows of the document: the row that goes may be
anything, and of the others one is primary, unless there are none. -/
structure RemovalMends (t : Tables) (p : String) (u : Uuid) : Prop where
  named : Text.isBlank p = false
  decodable : ∀ row ∈ t.aliasesOf p, row.id ≠ u.render → ∃ a, Rows.decodeAlias row = .ok a
  apart : ∀ row ∈ t.aliasesOf p, row.id ≠ u.render → row.name ≠ p
  primary : (∀ row ∈ t.aliasesOf p, row.id = u.render) ∨
    (t.aliasesOf p).countP (fun row => row.id != u.render && row.flag == 1) = 1

/-- **What moving the primary flag mends.** -/
theorem whole_flagMoved_iff (t : Tables) (p : String) (u : Uuid) :
    (t.flagMoved p u).Whole p ↔ t.PromotionMends p u := by
  have hrow : ∀ row ∈ t.aliasesOf p,
      ((∃ a, Rows.decodeAlias (promotedRow p u.render row) = .ok a) ↔
        (Uuid.parse? row.id).isSome = true ∧ (row.id = u.render ∨ row.flag = 0 ∨ row.flag = 1)) ∧
      ((promotedRow p u.render row).flag = 1 ↔ row.id = u.render) := by
    intro row hmem
    have hflag := promotedRow_flag u.render (mem_aliasesOf.1 hmem).2
    obtain ⟨v, hv⟩ := promotedRow_eq p u.render row
    have hid : (promotedRow p u.render row).id = row.id := by rw [hv]
    rw [Rows.decodable_iff, hid, hflag]
    by_cases hpromoted : row.id = u.render
    · simp [hpromoted]
    · by_cases hset : row.flag = 1
      · simp [hpromoted, hset]
      · simp [hpromoted, hset]
  have hcount : ((t.flagMoved p u).aliasesOf p).countP (·.flag == 1)
      = (t.aliasesOf p).countP (·.id == u.render) := by
    rw [aliasesOf_flagMoved, List.countP_map]
    refine List.countP_congr fun row hmem => ?_
    simpa using (hrow row hmem).2
  constructor
  · rintro ⟨hnamed, hdecodable, hapart, hprimary⟩
    rw [hcount] at hprimary
    rw [aliasesOf_flagMoved] at hdecodable hapart hprimary
    have hmoved : ∀ row ∈ t.aliasesOf p,
        promotedRow p u.render row ∈ (t.aliasesOf p).map (promotedRow p u.render) :=
      fun row hmem => List.mem_map_of_mem hmem
    have hread := fun row hmem => (hrow row hmem).1.1 (hdecodable _ (hmoved row hmem))
    refine ⟨hnamed, fun row hmem => (hread row hmem).1, fun row hmem => ?_,
      fun row hmem => (hread row hmem).2, hprimary.imp_left List.map_eq_nil_iff.1⟩
    rw [← promotedRow_name p u.render row]
    exact hapart _ (hmoved row hmem)
  · rintro ⟨hnamed, hids, hapart, hflags, honce⟩
    refine ⟨hnamed, fun row hmem => ?_, fun row hmem => ?_, ?_⟩
    · rw [aliasesOf_flagMoved] at hmem
      obtain ⟨a, ha, rfl⟩ := List.mem_map.1 hmem
      exact (hrow a ha).1.2 ⟨hids a ha, hflags a ha⟩
    · rw [aliasesOf_flagMoved] at hmem
      obtain ⟨a, ha, rfl⟩ := List.mem_map.1 hmem
      rw [promotedRow_name]
      exact hapart a ha
    · rw [hcount, aliasesOf_flagMoved]
      exact honce.imp_left List.map_eq_nil_iff.2

/-- The rows of a document without those that are gone. -/
theorem aliasesOf_withoutAliases (t : Tables) (p : String) (gone : AliasRow → Bool) :
    (t.withoutAliases gone).aliasesOf p = (t.aliasesOf p).filter (!gone ·) := by
  show (t.aliases.filter (!gone ·)).filter (·.document == p)
    = (t.aliases.filter (·.document == p)).filter (!gone ·)
  rw [List.filter_filter, List.filter_filter]
  exact List.filter_congr fun row _ => Bool.and_comm _ _

/-- **What removing the row of an id mends.** -/
theorem whole_withoutAliases_iff (t : Tables) (p : String) (u : Uuid) :
    (t.withoutAliases (·.id == u.render)).Whole p ↔ t.RemovalMends p u := by
  have hleft : ∀ row, row ∈ (t.withoutAliases (·.id == u.render)).aliasesOf p ↔
      row ∈ t.aliasesOf p ∧ row.id ≠ u.render := by
    intro row
    rw [aliasesOf_withoutAliases, List.mem_filter, Bool.not_eq_true', beq_eq_false_iff_ne]
  have hnone : (t.withoutAliases (·.id == u.render)).aliasesOf p = [] ↔
      ∀ row ∈ t.aliasesOf p, row.id = u.render := by
    rw [aliasesOf_withoutAliases, List.filter_eq_nil_iff]
    exact forall₂_congr fun row _ => by simp
  have hcount : ((t.withoutAliases (·.id == u.render)).aliasesOf p).countP (·.flag == 1)
      = (t.aliasesOf p).countP fun row => row.id != u.render && row.flag == 1 := by
    rw [aliasesOf_withoutAliases, List.countP_filter]
    exact List.countP_congr fun row _ => by rw [Bool.and_comm]; rfl
  constructor
  · rintro ⟨hnamed, hdecodable, hapart, hprimary⟩
    rw [hnone, hcount] at hprimary
    exact ⟨hnamed, fun row hmem hne => hdecodable row ((hleft row).2 ⟨hmem, hne⟩),
      fun row hmem hne => hapart row ((hleft row).2 ⟨hmem, hne⟩), hprimary⟩
  · rintro ⟨hnamed, hdecodable, hapart, hprimary⟩
    rw [← hnone, ← hcount] at hprimary
    refine ⟨hnamed, fun row hmem => ?_, fun row hmem => ?_, hprimary⟩
    · obtain ⟨hthere, hne⟩ := (hleft row).1 hmem
      exact hdecodable row hthere hne
    · obtain ⟨hthere, hne⟩ := (hleft row).1 hmem
      exact hapart row hthere hne

end Tables

/-! ## §2. Changes of a damaged document. -/

namespace Rows

variable {t : Tables} {p n : String} {row : AliasRow} {a : Alias}

theorem findAlias_of_row (hrow : t.alias? n = some row) :
    findAlias t n = some <$> decodeAlias row := by
  unfold findAlias
  rw [hrow]

/-- An alias that is found is the one that its row holds. -/
theorem decodeAlias_of_owned (hrow : t.alias? n = some row) (h : ownedAlias t p n = .ok a) :
    decodeAlias row = .ok a := by
  unfold ownedAlias at h
  rw [findAlias_of_row hrow] at h
  cases hdecode : decodeAlias row with
  | error e => rw [hdecode] at h; cases h
  | ok b =>
    rw [hdecode] at h
    change (if b.document = p then Except.ok b else Except.error _) = Except.ok a at h
    split at h
    · exact h
    · cases h

/-- The alias that the row of a document holds is found as its own. -/
theorem ownedAlias_of_decodeAlias (hrow : t.alias? n = some row) (howner : row.document = p)
    (ha : decodeAlias row = .ok a) : ownedAlias t p n = .ok a := by
  have hdoc : a.document = p :=
    (congrArg (fun x => x.2.2.1) (decodeAlias_eq_ok_iff.1 ha)).symm.trans howner
  unfold ownedAlias
  rw [findAlias_of_row hrow, ha]
  exact if_pos hdoc

/-- What is found under a name is the alias of its row. -/
theorem findAlias_document {found : Option Alias} (hrow : t.alias? n = some row)
    (h : findAlias t n = .ok found) : ∃ b ∈ found, b.document = row.document := by
  rw [findAlias_of_row hrow] at h
  cases hdecode : decodeAlias row with
  | error e => rw [hdecode] at h; cases h
  | ok b =>
    rw [hdecode] at h
    cases h
    exact ⟨b, rfl, (congrArg (fun x => x.2.2.1) (decodeAlias_eq_ok_iff.1 hdecode)).symm⟩

end Rows

namespace Work

variable {fresh : Fresh} {t t' : Tables} {p n : String} {d : Document} {row : AliasRow}

/-- No alias is added to a damaged document. -/
theorem createAlias_ne_ok (h : t.Damaged p) : (createAlias fresh p n).runOn t ≠ (.ok d, t') := by
  intro hrun
  obtain ⟨-, -, position, row, version, -, -, -, -, rfl, hload⟩ := createAlias_eq_ok_iff.1 hrun
  have hwhole := Tables.whole_touched_iff.1 (Tables.whole_of_loadRequired hload)
  exact h.not_whole hwhole.of_newAlias

/-- No alias is deleted that leaves its document damaged. -/
theorem deleteAlias_ne_ok (hrow : t.alias? n = some row)
    (h : ∀ a, Rows.decodeAlias row = .ok a → ¬(a.primary = true ∧ (t.aliasesOf p).length > 1) →
      (t.withoutAliases (·.id == a.id.render)).Damaged p) :
    (deleteAlias fresh p n).runOn t ≠ (.ok d, t') := by
  intro hrun
  obtain ⟨-, a, -, version, howned, hsole, -, -, rfl, hload⟩ := deleteAlias_eq_ok_iff.1 hrun
  exact (h a (Rows.decodeAlias_of_owned hrow howned) hsole).not_whole
    (Tables.whole_touched_iff.1 (Tables.whole_of_loadRequired hload))

/-- No alias of a damaged document is promoted that leaves it damaged. -/
theorem promoteAlias_ne_ok (hdamaged : t.Damaged p) (hrow : t.alias? n = some row)
    (h : ∀ a, Rows.decodeAlias row = .ok a → a.primary = false → (t.flagMoved p a.id).Damaged p) :
    (promoteAlias fresh p n).runOn t ≠ (.ok d, t') := by
  intro hrun
  obtain ⟨-, a, howned, hload, hcase⟩ := promoteAlias_eq_ok_iff.1 hrun
  rcases hcase with ⟨-, rfl⟩ | ⟨hprimary, -, version, -, -, -, rfl⟩
  · exact hdamaged.not_whole (Tables.whole_of_loadRequired hload)
  · exact (h a (Rows.decodeAlias_of_owned hrow howned) hprimary).not_whole
      (Tables.whole_touched_iff.1 (Tables.whole_of_loadRequired hload))

/-- A removal that mends its document is carried out. -/
theorem deleteAlias_of_mends (fresh : Fresh) {a : Alias} {doc : DocumentRow} {version : Int64}
    (hdoc : t.document? p = some doc) (hversion : version.toInt = doc.version.toInt + 1)
    (hrow : t.alias? n = some row) (howner : row.document = p) (ha : Rows.decodeAlias row = .ok a)
    (hsole : ¬(a.primary = true ∧ (t.aliasesOf p).length > 1)) (hmends : t.RemovalMends p a.id) :
    ∃ d t', (deleteAlias fresh p n).runOn t = (.ok d, t') := by
  have hthere := Tables.hasDocument_of_document? hdoc
  have hwhole : (t.aliasRemoved fresh p a.id version).Whole p :=
    Tables.whole_touched_iff.2 ((Tables.whole_withoutAliases_iff t p a.id).2 hmends)
  obtain ⟨d, hload⟩ := hwhole.exists_loadRequired (Tables.hasDocument_touched hthere _ _)
  exact ⟨d, _, deleteAlias_eq_ok_iff.2 ⟨hthere, a, doc, version,
    Rows.ownedAlias_of_decodeAlias hrow howner ha, hsole, hdoc, hversion, rfl, hload⟩⟩

/-- So is a promotion, if ids are unique. -/
theorem promoteAlias_of_mends (fresh : Fresh) {a : Alias} {doc : DocumentRow} {version : Int64}
    (hids : t.aliases.Pairwise fun a b => a.id ≠ b.id) (hdoc : t.document? p = some doc)
    (hversion : version.toInt = doc.version.toInt + 1) (hrow : t.alias? n = some row)
    (howner : row.document = p) (ha : Rows.decodeAlias row = .ok a) (hprimary : a.primary = false)
    (hmends : t.PromotionMends p a.id) :
    ∃ d t', (promoteAlias fresh p n).runOn t = (.ok d, t') := by
  have hthere := Tables.hasDocument_of_document? hdoc
  have hwhole : ((t.flagMoved p a.id).touched p fresh.now version).Whole p :=
    Tables.whole_touched_iff.2 ((Tables.whole_flagMoved_iff t p a.id).2 hmends)
  obtain ⟨d, hload⟩ := hwhole.exists_loadRequired (Tables.hasDocument_touched hthere _ _)
  -- the flags of the document were cleared before, so the row may become primary
  have hmem : row ∈ t.aliasesOf p :=
    Tables.mem_aliasesOf.2 ⟨(Tables.mem_of_alias? hrow).1, howner⟩
  obtain ⟨target, htarget, hid⟩ := hmends.exists_target (List.ne_nil_of_mem hmem)
  obtain ⟨hstored, howned⟩ := Tables.mem_aliasesOf.1 htarget
  have hmoved := Tables.setFlag_demoteAll hids hstored howned hid
  exact ⟨d, _, promoteAlias_eq_ok_iff.2 ⟨hthere, a, Rows.ownedAlias_of_decodeAlias hrow howner ha,
    hload, Or.inr ⟨hprimary, doc, version, hmoved, hdoc, hversion, rfl⟩⟩⟩

end Work

/-! ## §3. Requests about a damaged document. -/

namespace Database

variable {α : Type} {Q : RepositoryError → Prop} {db : Database} {c : Connection} {p n : String}
  {row : AliasRow}

/-- What never succeeds is stopped. -/
theorem exists_error_of_blames {x : Except RepositoryError α} (h : Blames Q x)
    (hok : ∀ a, x ≠ .ok a) : ∃ e, x = .error e ∧ Q e := by
  cases x with
  | ok a => exact absurd rfl (hok a)
  | error e => exact ⟨e, rfl, h⟩

/-- **A transaction whose work never succeeds is stopped**, and leaves everything as it was. -/
theorem write_stopped {body : Work α} (h : body.Blames Q db.committed)
    (hQ : ∀ e, Q (.ofEngine e)) (hok : ∀ a t, body.runOn db.committed ≠ (.ok a, t)) :
    ∃ e, db.write c body = (.error e, db) ∧ Q e := by
  obtain ⟨e, herror, he⟩ : ∃ e, (db.write c body).1 = .error e ∧ Q e := by
    refine exists_error_of_blames (write_blames_ofEngine h hQ) fun a ha => ?_
    obtain ⟨t, -, hrun, -⟩ := write_of_ok ha
    exact hok a t hrun
  exact ⟨e, Prod.ext herror (write_of_error herror), he⟩

theorem write_refused {body : Work α} (h : body.Blames Q db.committed)
    (hQ : ∀ e, e.IsFault → Q e) (hok : ∀ a t, body.runOn db.committed ≠ (.ok a, t)) :
    ∃ e, (db.write c body).1 = .error e ∧ Q e := by
  obtain ⟨e, herror, he⟩ := write_stopped (c := c) h (fun _ => hQ _ rfl) hok
  exact ⟨e, congrArg Prod.fst herror, he⟩

/-- A damaged document is not found. -/
theorem findByPublicId_refused (c : Connection) (fresh : Fresh) (h : db.committed.Damaged p) :
    ∃ e, (db.answer c fresh (.findByPublicId p)).1 = .error e ∧ e.IsFault := by
  refine exists_error_of_blames (lookup_blames db c fresh rfl) fun found hfound => ?_
  obtain ⟨t, hreads, hload⟩ := Reads.of_findByPublicId hfound
  obtain ⟨e, herror, -⟩ := h.loadDocument
  rw [hreads.eq_committed, herror] at hload
  cases hload

/-- A damaged document gets no alias. -/
theorem createAlias_refused (c : Connection) (fresh : Fresh) (h : db.committed.Damaged p)
    (hfree : ¬Rows.InUse db.committed n) :
    ∃ e, (db.answer c fresh (.createAlias p n)).1 = .error e ∧ e.IsFault := by
  obtain ⟨e, herror, hfault | ⟨-, hmissing⟩ | ⟨-, huse⟩⟩ :=
    write_refused (c := c) (Work.createAlias_blames fresh p n db.committed) (fun e => Or.inl)
      fun d t => Work.createAlias_ne_ok h
  · exact ⟨e, herror, hfault⟩
  · rw [h.hasDocument] at hmissing
    cases hmissing
  · exact absurd huse hfree

/-- An alias that leaves its document damaged is not deleted; that it is primary and not the last may
come first. -/
theorem deleteAlias_refused (c : Connection) (fresh : Fresh)
    (hdoc : db.committed.hasDocument p = true) (hrow : db.committed.alias? n = some row) (howner : row.document = p)
    (h : ∀ a, Rows.decodeAlias row = .ok a →
      ¬(a.primary = true ∧ (db.committed.aliasesOf p).length > 1) →
      (db.committed.withoutAliases (·.id == a.id.render)).Damaged p) :
    ∃ e, (db.answer c fresh (.deleteAlias p n)).1 = .error e ∧ (e.IsFault ∨
      e = .primaryNotSole p n (db.committed.aliasesOf p).length ∧
        (db.committed.aliasesOf p).length > 1 ∧ row.flag = 1) := by
  obtain ⟨e, herror, hfault | ⟨-, hmissing⟩ | ⟨-, found, hfound, hother⟩ |
      ⟨he, hmany, a, howned, hprimary⟩⟩ :=
    write_refused (c := c) (Work.deleteAlias_blames fresh p n db.committed) (fun e => Or.inl)
      fun d t => Work.deleteAlias_ne_ok hrow h
  · exact ⟨e, herror, Or.inl hfault⟩
  · rw [hdoc] at hmissing
    cases hmissing
  · obtain ⟨b, hb, hsame⟩ := Rows.findAlias_document hrow hfound
    exact absurd (hsame.trans howner) (hother b hb)
  · have hflag := congrArg (fun x => x.2.2.2)
      (Rows.decodeAlias_eq_ok_iff.1 (Rows.decodeAlias_of_owned hrow howned))
    exact ⟨e, herror, Or.inr ⟨he, hmany, by simpa [hprimary] using hflag⟩⟩

/-- An alias of a damaged document is not promoted if that leaves the document damaged. -/
theorem promoteAlias_refused (c : Connection) (fresh : Fresh) (hdamaged : db.committed.Damaged p)
    (hrow : db.committed.alias? n = some row) (howner : row.document = p)
    (h : ∀ a, Rows.decodeAlias row = .ok a → a.primary = false →
      (db.committed.flagMoved p a.id).Damaged p) :
    ∃ e, (db.answer c fresh (.promoteAlias p n)).1 = .error e ∧ e.IsFault := by
  obtain ⟨e, herror, hfault | ⟨-, hmissing⟩ | ⟨-, found, hfound, hother⟩⟩ :=
    write_refused (c := c) (Work.promoteAlias_blames fresh p n db.committed) (fun e => Or.inl)
      fun d t => Work.promoteAlias_ne_ok hdamaged hrow h
  · exact ⟨e, herror, hfault⟩
  · rw [hdamaged.hasDocument] at hmissing
    cases hmissing
  · obtain ⟨b, hb, hsame⟩ := Rows.findAlias_document hrow hfound
    exact absurd (hsame.trans howner) (hother b hb)

end Database

end Namebook
