/-
  Namebook.Proofs.Repository.Grant
  ────────────────────────────────
  **WHAT THE STORE GRANTS.**

  On tables that are in order a change is stopped by nothing but the checks of the library and the
  limits of stored integers.  Each change that passes them is computed once: the document that is
  answered, and the tables that are left.

    • `Identity.runOn_createAlias`, `runOn_deleteAlias`, `runOn_promoteAlias` — changes of a document;
    • `Identity.runOn_createDocument` — a new document under a vacant id;
    • `Claims.runOn_createDocument_taken` — an id that is not vacant is refused by its own name.
-/
import Namebook.Proofs.Repository.Identity

namespace Namebook

/-- A document as it is when it is created. -/
def Document.created (fresh : Fresh) (p : String) (initial : Option String) : Document :=
  { publicId := p
    aliases := initial.toList.map fun n =>
      { id := fresh.id, name := n, primary := true, document := p }
    version := 0
    createdAt := fresh.now
    updatedAt := fresh.now }

namespace Tables

variable {t : Tables} {fresh : Fresh} {p n : String}

/-! ## §1. Changes of a document. -/

/-- A document row after a change was counted. -/
def counted (row : DocumentRow) (now version : Int64) : DocumentRow :=
  { row with version, updatedAt := now }

theorem document?_touched {row : DocumentRow} (h : t.Claims) (hrow : t.document? p = some row)
    (now version : Int64) :
    (t.touched p now version).document? p = some (counted row now version) := by
  obtain ⟨hmem, hid⟩ := mem_of_document? hrow
  have hclaims : (t.touched p now version).Claims := h.updateDocument fun _ => rfl
  refine hclaims.document?_eq_some_iff.2 ⟨?_, hid⟩
  refine List.mem_map.2 ⟨row, hmem, ?_⟩
  rw [if_pos (beq_iff_eq.2 hid)]
  rfl

/-- A free name under a fresh id is admitted behind the last alias. -/
theorem Identity.admits (h : t.Identity) {row : DocumentRow} (hrow : t.document? p = some row)
    (hfree : ∀ m ∈ t.names, m.name ≠ n) (hfresh : ∀ a ∈ t.aliases, a.id ≠ fresh.id.render)
    (position : Int64) :
    t.Admits (t.newAlias fresh p n position) where
  flag := by
    rw [newAlias_flag]
    cases (t.aliasesOf p).isEmpty <;> rfl
  primary := by
    -- a document with an alias gets no primary one
    intro _ hset a ha hdoc _
    have hmem : a ∈ t.aliasesOf p := mem_aliasesOf.2 ⟨ha, hdoc⟩
    have hsome : ¬(t.aliasesOf p).isEmpty = true := by
      intro hempty
      rw [List.isEmpty_iff.1 hempty] at hmem
      cases hmem
    rw [newAlias_flag, if_neg hsome] at hset
    exact absurd hset (by decide)
  name := (h.unclaimed_iff.1 hfree).2
  id := hfresh
  unclaimed := hfree
  owner := hasDocument_of_document? hrow

/-- **A free name is granted**, under a fresh id and below the limits. -/
theorem Identity.runOn_createAlias {row : DocumentRow} {position version : Int64} (h : t.Identity)
    (hrow : t.document? p = some row) (hfree : ∀ m ∈ t.names, m.name ≠ n)
    (hfresh : ∀ a ∈ t.aliases, a.id ≠ fresh.id.render)
    (hposition : Rows.nextPosition t p = .ok position)
    (hversion : version.toInt = row.version.toInt + 1) :
    (Work.createAlias fresh p n).runOn t
      = (.ok ((t.aliasAdded fresh p n position version).documentOf (counted row fresh.now version)),
        t.aliasAdded fresh p n position version) := by
  have hadmits := h.admits hrow hfree hfresh position
  have hidentity : (t.aliasAdded fresh p n position version).Identity :=
    (h.withNewAlias hposition hadmits).touched _ _ _
  have hclaims := h.toClaims.withAlias hadmits.unclaimed
  have hload := hidentity.loadRequired_eq (document?_touched hclaims hrow fresh.now version)
  exact Work.createAlias_eq_ok_iff.2 ⟨hasDocument_of_document? hrow, hfree, position, row, version,
    hposition, hadmits, hrow, hversion, rfl, hload⟩

/-- The row of a document's alias is found under its name. -/
theorem Identity.ownedAlias_eq (h : t.Identity) {a : AliasRow} (ha : a ∈ t.aliases)
    (hdoc : a.document = p) : Rows.ownedAlias t p a.name = .ok a.decoded :=
  h.ownedAlias_eq_ok_iff.2 ⟨a, h.alias?_eq_some_iff.2 ⟨ha, rfl⟩, hdoc, rfl⟩

/-- **An alias goes** that is not primary, or is the last one. -/
theorem Identity.runOn_deleteAlias {row : DocumentRow} {a : AliasRow} {version : Int64}
    (h : t.Identity) (fresh : Fresh) (hrow : t.document? p = some row) (ha : a ∈ t.aliases) (hdoc : a.document = p)
    (hguard : ¬(a.decoded.primary = true ∧ (t.aliasesOf p).length > 1))
    (hversion : version.toInt = row.version.toInt + 1) :
    (Work.deleteAlias fresh p a.name).runOn t
      = (.ok ((t.aliasRemoved fresh p a.decoded.id version).documentOf
          (counted row fresh.now version)), t.aliasRemoved fresh p a.decoded.id version) := by
  have hsole := sole_of_removable (mem_aliasesOf.2 ⟨ha, hdoc⟩) hguard
  have hidentity : (t.aliasRemoved fresh p a.decoded.id version).Identity :=
    (h.withoutRow ha (by rw [hdoc]; exact hsole)).touched _ _ _
  have hclaims : (t.withoutAliases (·.id == a.decoded.id.render)).Claims :=
    h.toClaims.withoutAliases
  have hload := hidentity.loadRequired_eq (document?_touched hclaims hrow fresh.now version)
  exact Work.deleteAlias_eq_ok_iff.2 ⟨hasDocument_of_document? hrow, a.decoded, row, version,
    h.ownedAlias_eq ha hdoc, hguard, hrow, hversion, rfl, hload⟩

/-- **The primary flag moves** to any other alias of the document. -/
theorem Identity.runOn_promoteAlias {row : DocumentRow} {a : AliasRow} {version : Int64}
    (h : t.Identity) (fresh : Fresh) (hrow : t.document? p = some row) (ha : a ∈ t.aliases) (hdoc : a.document = p)
    (hset : a.flag ≠ 1) (hversion : version.toInt = row.version.toInt + 1) :
    (Work.promoteAlias fresh p a.name).runOn t
      = (.ok (((t.flagMoved p a.decoded.id).touched p fresh.now version).documentOf
          (counted row fresh.now version)),
        (t.flagMoved p a.decoded.id).touched p fresh.now version) := by
  have hmoved : (t.flagMoved p a.decoded.id).Identity := h.flagMoved ha hdoc
  have hidentity := hmoved.touched p fresh.now version
  have hload := hidentity.loadRequired_eq (document?_touched hmoved.toClaims hrow fresh.now version)
  have hfound : a.decoded.primary = false := beq_eq_false_iff_ne.2 hset
  exact Work.promoteAlias_eq_ok_iff.2 ⟨hasDocument_of_document? hrow, a.decoded,
    h.ownedAlias_eq ha hdoc, hload,
    Or.inr ⟨hfound, row, version, h.setFlag_demoteAll ha hdoc, hrow, hversion, rfl⟩⟩

/-- **What is primary already stays so**, and nothing changes. -/
theorem Identity.runOn_promoteAlias_primary {row : DocumentRow} {a : AliasRow} (h : t.Identity)
    (fresh : Fresh) (hrow : t.document? p = some row) (ha : a ∈ t.aliases) (hdoc : a.document = p)
    (hset : a.flag = 1) :
    (Work.promoteAlias fresh p a.name).runOn t = (.ok (t.documentOf row), t) := by
  have hfound : a.decoded.primary = true := beq_iff_eq.2 hset
  exact Work.promoteAlias_eq_ok_iff.2 ⟨hasDocument_of_document? hrow, a.decoded,
    h.ownedAlias_eq ha hdoc, h.loadRequired_eq hrow, Or.inl ⟨hfound, rfl⟩⟩

/-! ## §2. New documents. -/

/-- **A vacant id**: nobody has claimed it, and it is not the name of the initial alias. -/
structure Vacant (t : Tables) (initial : Option String) (p : String) : Prop where
  unclaimed : ∀ m ∈ t.names, m.name ≠ p
  apart : initial ≠ some p

instance (t : Tables) (initial : Option String) (p : String) : Decidable (t.Vacant initial p) :=
  decidable_of_iff ((∀ m ∈ t.names, m.name ≠ p) ∧ initial ≠ some p)
    ⟨fun h => ⟨h.1, h.2⟩, fun h => ⟨h.unclaimed, h.apart⟩⟩

/-- The tables with one more document, its first alias if there is one, and the claims of both. -/
def created (t : Tables) (fresh : Fresh) (p : String) (initial : Option String) : Tables :=
  { t with
    documents := t.documents ++ [⟨p, 0, fresh.now, fresh.now⟩]
    aliases := t.aliases ++ initial.toList.map fun n => ⟨fresh.id.render, n, p, 1, 0⟩
    names := t.names ++ ⟨p, NameKind.publicId.text⟩ ::
      initial.toList.map fun n => ⟨n, NameKind.aliasName.text⟩ }

theorem created_none (t : Tables) (fresh : Fresh) (p : String) :
    t.created fresh p none = t.withDocument ⟨p, 0, fresh.now, fresh.now⟩ := by
  unfold created withDocument
  rw [Option.toList_none, List.map_nil, List.map_nil, List.append_nil]
  rfl

theorem created_some (t : Tables) (fresh : Fresh) (p n : String) :
    t.created fresh p (some n)
      = (t.withDocument ⟨p, 0, fresh.now, fresh.now⟩).withAlias ⟨fresh.id.render, n, p, 1, 0⟩ := by
  unfold created withDocument withAlias
  simp only [Option.toList_some, List.map_cons, List.map_nil, List.append_assoc, List.singleton_append]
  rfl

/-- The first alias of a new document is admitted. -/
theorem Identity.admits_first (h : t.Identity) (hvacant : t.Vacant (some n) p)
    (hfree : ∀ m ∈ t.names, m.name ≠ n) (hfresh : ∀ a ∈ t.aliases, a.id ≠ fresh.id.render) :
    (t.withDocument ⟨p, 0, fresh.now, fresh.now⟩).Admits ⟨fresh.id.render, n, p, 1, 0⟩ where
  flag := rfl
  primary := by
    intro _ _ a ha hdoc _
    -- nothing can belong to a document that was not there
    have hmem : a ∈ t.aliasesOf p := mem_aliasesOf.2 ⟨ha, hdoc⟩
    rw [h.toIndexed.aliasesOf_of_missing (h.unclaimed_iff.1 hvacant.unclaimed).1] at hmem
    cases hmem
  name := (h.unclaimed_iff.1 hfree).2
  id := hfresh
  unclaimed := by
    intro m hm
    rcases List.mem_append.1 hm with hm | hm
    · exact hfree m hm
    · rw [List.mem_singleton.1 hm]
      exact fun heq => hvacant.apart (congrArg some heq.symm)
  owner := hasDocument_iff.2 ⟨_, List.mem_append_right _ (List.mem_singleton.2 rfl), rfl⟩

/-- What is left by the creation of a document is in order. -/
theorem Identity.created {initial : Option String} (h : t.Identity) (hvacant : t.Vacant initial p)
    (hnamed : Text.isBlank p = false) (hinitial : ∀ n ∈ initial, ∀ m ∈ t.names, m.name ≠ n)
    (hfresh : initial ≠ none → ∀ a ∈ t.aliases, a.id ≠ fresh.id.render) :
    (t.created fresh p initial).Identity := by
  have hbare : (t.withDocument ⟨p, 0, fresh.now, fresh.now⟩).Identity :=
    h.withDocument hvacant.unclaimed hnamed
  cases initial with
  | none =>
    rw [created_none]
    exact hbare
  | some n =>
    have hadmits := h.admits_first hvacant (hinitial n rfl) (hfresh (Option.some_ne_none n))
    rw [created_some]
    refine hbare.withAlias hadmits ⟨Or.inr rfl, fresh.id, rfl⟩ ?_ fun _ => rfl
    intro a ha
    have hmem : a ∈ t.aliasesOf p := ha
    rw [h.toIndexed.aliasesOf_of_missing (h.unclaimed_iff.1 hvacant.unclaimed).1] at hmem
    cases hmem

/-- A document with one row. -/
theorem documentOf_of_sole (row : DocumentRow) {id : Uuid} {position : Int64}
    (h : t.aliasesOf row.publicId = [⟨id.render, n, p, 1, position⟩]) :
    t.documentOf row
      = { publicId := row.publicId
          aliases := [{ id, name := n, primary := true, document := p }]
          version := row.version
          createdAt := row.createdAt
          updatedAt := row.updatedAt } := by
  unfold documentOf
  rw [h]
  show Document.mk _ [AliasRow.decoded ⟨id.render, n, p, 1, position⟩] _ _ _ = _
  unfold AliasRow.decoded
  rw [Uuid.parse?_render]
  rfl

/-- The new document is loaded as it was created. -/
theorem Identity.loadRequired_created {initial : Option String} (h : (t.created fresh p initial).Identity)
    (hnothing : t.aliasesOf p = []) :
    Rows.loadRequired (t.created fresh p initial) p = .ok (Document.created fresh p initial) := by
  have hfound : (t.created fresh p initial).document? p = some ⟨p, 0, fresh.now, fresh.now⟩ :=
    h.document?_eq_some_iff.2 ⟨List.mem_append_right _ (List.mem_singleton.2 rfl), rfl⟩
  have haliases : (t.created fresh p initial).aliasesOf p
      = initial.toList.map fun n => ⟨fresh.id.render, n, p, 1, 0⟩ := by
    refine (List.filter_append ..).trans ?_
    show t.aliasesOf p ++ _ = _
    rw [hnothing, List.nil_append, List.filter_eq_self]
    intro a ha
    obtain ⟨n, -, rfl⟩ := List.mem_map.1 ha
    exact beq_self_eq_true p
  rw [h.loadRequired_eq hfound]
  cases initial with
  | none =>
    unfold documentOf
    rw [haliases]
    rfl
  | some n => exact congrArg Except.ok (documentOf_of_sole _ haliases)

/-- **A vacant id is granted.** -/
theorem Identity.runOn_createDocument {initial : Option String} (h : t.Identity)
    (hvacant : t.Vacant initial p) (hnamed : Text.isBlank p = false)
    (hinitial : ∀ n ∈ initial, ∀ m ∈ t.names, m.name ≠ n)
    (hfresh : initial ≠ none → ∀ a ∈ t.aliases, a.id ≠ fresh.id.render) :
    (Work.createDocument fresh p initial).runOn t
      = (.ok (Document.created fresh p initial), t.created fresh p initial) := by
  have hfree := hvacant.unclaimed
  have hids := (h.unclaimed_iff.1 hfree).1
  have hload := (h.created hvacant hnamed hinitial hfresh).loadRequired_created
    (h.toIndexed.aliasesOf_of_missing hids)
  cases initial with
  | none =>
    exact Work.createDocument_none_eq_ok_iff.2 ⟨hids, hfree, created_none t fresh p, hload⟩
  | some n =>
    have hapart : n ≠ p := fun heq => hvacant.apart (congrArg some heq)
    have hadmits := h.admits_first hvacant (hinitial n rfl) (hfresh (Option.some_ne_none n))
    exact Work.createDocument_some_eq_ok_iff.2
      ⟨hids, hfree, hapart, hinitial n rfl, hadmits, created_some t fresh p n, hload⟩

/-- A claim that is there can be told. -/
theorem Claims.nameClaim_of_claimed (h : t.Claims) (hclaimed : ¬∀ m ∈ t.names, m.name ≠ n) :
    ∃ k, Rows.nameClaim t n = .ok (some k) := by
  cases hfind : t.name? n with
  | none => exact absurd (find?_key_eq_none_iff.1 hfind) hclaimed
  | some m =>
    have hmem : m ∈ t.names := List.mem_of_find?_eq_some hfind
    have hkind : ∃ k : NameKind, m.kind = k.text := by
      rcases h.mem_names_iff.1 hmem with ⟨d, -, rfl⟩ | ⟨a, -, rfl⟩
      · exact ⟨.publicId, rfl⟩
      · exact ⟨.aliasName, rfl⟩
    obtain ⟨k, hk⟩ := hkind
    refine ⟨k, ?_⟩
    unfold Rows.nameClaim
    rw [hfind]
    dsimp only
    rw [hk, ofText?_text]

theorem Claims.runOn_ensureUnclaimed (h : t.Claims) (hclaimed : ¬∀ m ∈ t.names, m.name ≠ n) :
    (Work.ensureUnclaimed n).runOn t = (.error (.nameTaken n), t) := by
  obtain ⟨k, hk⟩ := h.nameClaim_of_claimed hclaimed
  unfold Work.ensureUnclaimed
  rw [Work.runOn_query_bind hk]
  rfl

/-- **An id that is not vacant is refused by its own name**, whoever holds it. -/
theorem Claims.runOn_createDocument_taken {initial : Option String} (h : t.Claims)
    (htaken : ¬t.Vacant initial p) :
    (Work.createDocument fresh p initial).runOn t = (.error (.nameTaken p), t) := by
  unfold Work.createDocument
  rw [Work.runOn_bind]
  by_cases hfree : ∀ m ∈ t.names, m.name ≠ p
  · -- nobody holds the id, so it is the name of the initial alias
    have hinitial : initial = some p := Classical.byContradiction fun hne => htaken ⟨hfree, hne⟩
    subst hinitial
    have hpassed : (Work.ensureUnclaimed p).runOn t = (.ok (), t) :=
      Work.ensureUnclaimed_eq_ok_iff.2 ⟨hfree, rfl⟩
    rw [hpassed]
    dsimp only
    rw [if_pos rfl]
    rfl
  · rw [h.runOn_ensureUnclaimed hfree]

end Tables

end Namebook
