/-
  Namebook.Proofs.Repository.Loading
  ──────────────────────────────────
  **WHAT IS STORED CAN BE LOADED.**

  `Identity` is the invariant that clients of the library keep: the rules of the store, rows that can
  be decoded and have an order, and a primary alias for every document that has aliases.  Under it no
  look-up fails:

    • `loadDocument_eq`, `findAlias_eq`, `findByAlias_eq`, `ownedAlias_eq_ok_iff` — every look-up in
      closed form;
    • `validate_documentOf` — every stored document is without fault.
-/
import Namebook.Proofs.Spelling
import Namebook.Proofs.Repository.Effect

namespace Namebook

/-! ## §1. Sound rows. -/

/-- A row that can be decoded, with the id in its canonical form. -/
structure AliasRow.Sound (a : AliasRow) : Prop where
  flag : a.flag = 0 ∨ a.flag = 1
  canonical : ∃ u : Uuid, a.id = u.render

/-- The alias of a row. -/
def AliasRow.decoded (a : AliasRow) : Alias :=
  { id := (Uuid.parse? a.id).getD ⟨0⟩
    name := a.name
    primary := a.flag == 1
    document := a.document }

namespace AliasRow.Sound

variable {a : AliasRow}

theorem decodeAlias_eq (h : a.Sound) : Rows.decodeAlias a = .ok a.decoded := by
  obtain ⟨u, hu⟩ := h.canonical
  have hparse : Uuid.parse? a.id = some u := by rw [hu, Uuid.parse?_render]
  unfold Rows.decodeAlias decoded
  rw [hparse]
  rcases h.flag with hflag | hflag
  · rw [hflag]; rfl
  · rw [hflag]; rfl

/-- The id of the alias is written as the row has it. -/
theorem render_decoded (h : a.Sound) : a.decoded.id.render = a.id := by
  obtain ⟨u, hu⟩ := h.canonical
  unfold decoded
  rw [hu, Uuid.parse?_render]
  rfl

end AliasRow.Sound

theorem Rows.mapM_decodeAlias {rows : List AliasRow} (h : ∀ a ∈ rows, a.Sound) :
    rows.mapM Rows.decodeAlias = .ok (rows.map AliasRow.decoded) := by
  induction rows with
  | nil => rfl
  | cons a rows ih =>
    rw [List.mapM_cons, (h a List.mem_cons_self).decodeAlias_eq,
      ih fun b hb => h b (List.mem_cons_of_mem a hb)]
    rfl

namespace Tables

/-! ## §2. The invariant. -/

/-- **Rows can be read in order**: on top of the rules of the store, rows are sound, and the
positions of a document's aliases are distinct. -/
structure Readable (t : Tables) : Prop extends t.Indexed where
  sound : ∀ a ∈ t.aliases, a.Sound
  positions : t.aliases.Pairwise fun a b => a.document = b.document → a.position ≠ b.position

/-- **Every document can be told and shown**: rows can be read, a document with aliases has a
primary one, and no public id is blank. -/
structure Identity (t : Tables) : Prop extends t.Readable where
  primary : ∀ a ∈ t.aliases, ∃ b ∈ t.aliases, b.document = a.document ∧ b.flag = 1
  named : ∀ d ∈ t.documents, Text.isBlank d.publicId = false

/-- The document of a row. -/
def documentOf (t : Tables) (row : DocumentRow) : Document :=
  { publicId := row.publicId
    aliases := (sortRows (t.aliasesOf row.publicId)).map AliasRow.decoded
    version := row.version
    createdAt := row.createdAt
    updatedAt := row.updatedAt }

theorem mem_aliasesOf {t : Tables} {p : String} {a : AliasRow} :
    a ∈ t.aliasesOf p ↔ a ∈ t.aliases ∧ a.document = p := by
  simp [aliasesOf]

theorem aliasesOf_withAlias (t : Tables) (row : AliasRow) (q : String) :
    (t.withAlias row).aliasesOf q = t.aliasesOf q ++ [row].filter (·.document == q) :=
  List.filter_append _ _

theorem aliasesOf_flagMoved (t : Tables) (p : String) (id : Uuid) (q : String) :
    (t.flagMoved p id).aliasesOf q = (t.aliasesOf q).map (promotedRow p id.render) := by
  have howner : ((·.document == q) ∘ promotedRow p id.render) = (·.document == q) := by
    funext a
    show ((promotedRow p id.render a).document == q) = _
    rw [promotedRow_document]
  unfold aliasesOf
  rw [flagMoved_aliases, List.filter_map, howner]

theorem mem_sortRows {rows : List AliasRow} {a : AliasRow} : a ∈ sortRows rows ↔ a ∈ rows :=
  (perm_sortRows rows).mem_iff

/-- Sound rows are put together without failure. -/
theorem assemble_eq {t : Tables} (h : ∀ a ∈ t.aliases, a.Sound) (row : DocumentRow) :
    Rows.assemble t row = .ok (t.documentOf row) := by
  have hsound : ∀ a ∈ sortRows (t.aliasesOf row.publicId), a.Sound := by
    intro a ha
    exact h a (mem_aliasesOf.1 (mem_sortRows.1 ha)).1
  unfold Rows.assemble
  rw [Rows.mapM_decodeAlias hsound]
  rfl

theorem mem_of_document? {t : Tables} {p : String} {row : DocumentRow}
    (h : t.document? p = some row) : row ∈ t.documents ∧ row.publicId = p :=
  ⟨List.mem_of_find?_eq_some h, by simpa using List.find?_some h⟩

theorem hasDocument_of_document? {t : Tables} {p : String} {row : DocumentRow}
    (h : t.document? p = some row) :
    t.hasDocument p = true := by
  obtain ⟨hmem, hid⟩ := mem_of_document? h
  exact hasDocument_iff.2 ⟨row, hmem, hid⟩

theorem hasDocument_of_none {t : Tables} {p : String} (h : t.document? p = none) :
    t.hasDocument p = false := by
  rw [Bool.eq_false_iff]
  intro hdoc
  obtain ⟨row, hmem, hid⟩ := hasDocument_iff.1 hdoc
  exact find?_key_eq_none_iff.1 h row hmem hid

theorem mem_of_alias? {t : Tables} {n : String} {a : AliasRow} (h : t.alias? n = some a) :
    a ∈ t.aliases ∧ a.name = n :=
  ⟨List.mem_of_find?_eq_some h, by simpa using List.find?_some h⟩

/-- The owner of an alias is stored. -/
theorem Indexed.owner_of_alias {t : Tables} {n : String} {a : AliasRow} (h : t.Indexed)
    (ha : t.alias? n = some a) : ∃ owner, t.document? a.document = some owner := by
  obtain ⟨owner, howner, hid⟩ := hasDocument_iff.1 (h.owners a (mem_of_alias? ha).1)
  exact ⟨owner, h.document?_eq_some_iff.2 ⟨howner, hid⟩⟩

/-- Whoever looks for the owner of an alias finds it if there is the alias. -/
theorem Indexed.isSome_owner {t : Tables} {α : Type} (h : t.Indexed) (n : String)
    (f : DocumentRow → α) :
    ((t.alias? n).bind fun a => (t.document? a.document).map f).isSome = (t.alias? n).isSome := by
  cases ha : t.alias? n with
  | none => rfl
  | some a =>
    obtain ⟨owner, howner⟩ := h.owner_of_alias ha
    show ((t.document? a.document).map f).isSome = true
    rw [howner]
    rfl

theorem primaryCount_documentOf (t : Tables) (row : DocumentRow) :
    (t.documentOf row).primaryCount = (t.aliasesOf row.publicId).countP (·.flag == 1) := by
  unfold Document.primaryCount documentOf
  rw [List.countP_map]
  exact (perm_sortRows _).countP_eq _

/-! ### Loading, whatever the rows are. -/

theorem validated_eq_ok_iff {d d' : Document} :
    Rows.validated d = .ok d' ↔ d.validate = .ok () ∧ d' = d := by
  unfold Rows.validated
  cases d.validate with
  | error fault =>
    constructor
    · intro h; cases h
    · intro h; cases h.1
  | ok u =>
    constructor
    · intro h
      injection h with h
      exact ⟨rfl, h.symm⟩
    · rintro ⟨-, rfl⟩
      rfl

/-- **A document is loaded exactly if its rows can be put together without a fault.** -/
theorem loadDocument_eq_some_iff {t : Tables} {p : String} {d : Document} :
    Rows.loadDocument t p = .ok (some d) ↔
      ∃ row, t.document? p = some row ∧ Rows.assemble t row = .ok d ∧ d.validate = .ok () := by
  unfold Rows.loadDocument
  cases t.document? p with
  | none =>
    constructor
    · intro h; cases h
    · rintro ⟨row, hrow, -⟩; cases hrow
  | some row =>
    dsimp only
    cases hassemble : Rows.assemble t row with
    | error e =>
      constructor
      · intro h; cases h
      · rintro ⟨row', hrow, hok, -⟩
        cases hrow
        cases hassemble.symm.trans hok
    | ok d' =>
      -- what was put together still has to pass the check of a document
      show some <$> Rows.validated d' = .ok (some d) ↔ _
      constructor
      · intro h
        cases hvalid : Rows.validated d' with
        | error e => rw [hvalid] at h; cases h
        | ok d'' =>
          rw [hvalid] at h
          cases h
          obtain ⟨hvalidate, rfl⟩ := validated_eq_ok_iff.1 hvalid
          exact ⟨row, rfl, hassemble, hvalidate⟩
      · rintro ⟨row', hrow, hok, hvalidate⟩
        cases hrow
        cases hassemble.symm.trans hok
        rw [validated_eq_ok_iff.2 ⟨hvalidate, rfl⟩]
        rfl

/-- Nothing is found exactly if nothing is stored. -/
theorem loadDocument_eq_none_iff {t : Tables} {p : String} :
    Rows.loadDocument t p = .ok none ↔ t.document? p = none := by
  unfold Rows.loadDocument
  cases t.document? p with
  | none => exact ⟨fun _ => rfl, fun _ => rfl⟩
  | some row =>
    dsimp only
    constructor
    · intro h
      cases hassemble : Rows.assemble t row with
      | error e => rw [hassemble] at h; cases h
      | ok d =>
        rw [hassemble] at h
        have h : some <$> Rows.validated d = .ok none := h
        cases hvalid : Rows.validated d with
        | error e => rw [hvalid] at h; cases h
        | ok d' => rw [hvalid] at h; cases h
    · intro h; cases h

theorem loadRequired_eq_ok_iff_loadDocument {t : Tables} {p : String} {d : Document} :
    Rows.loadRequired t p = .ok d ↔ Rows.loadDocument t p = .ok (some d) := by
  unfold Rows.loadRequired
  cases Rows.loadDocument t p with
  | error e =>
    constructor
    · intro h; cases h
    · intro h; cases h
  | ok found =>
    cases found with
    | none =>
      constructor
      · intro h; cases h
      · intro h; cases h
    | some d' =>
      constructor
      · intro h
        injection h with h
        rw [h]
      · intro h
        cases h
        rfl

/-- Loading a document that must be there, once its rows are sound. -/
theorem loadRequired_eq_ok_iff {t : Tables} {p : String} {d : Document}
    (hsound : ∀ a ∈ t.aliases, a.Sound) :
    Rows.loadRequired t p = .ok d ↔
      ∃ row, t.document? p = some row ∧ (t.documentOf row).fault? = none ∧
        d = t.documentOf row := by
  rw [loadRequired_eq_ok_iff_loadDocument, loadDocument_eq_some_iff]
  constructor
  · rintro ⟨row, hrow, hassemble, hvalidate⟩
    rw [assemble_eq hsound row] at hassemble
    cases hassemble
    exact ⟨row, hrow, Document.validate_eq_ok_iff.1 hvalidate, rfl⟩
  · rintro ⟨row, hrow, hfault, rfl⟩
    exact ⟨row, hrow, assemble_eq hsound row, Document.validate_eq_ok_iff.2 hfault⟩

/-- What was loaded has a public id that is not blank. -/
theorem isBlank_of_loaded {t : Tables} {p : String} {d : Document}
    (hsound : ∀ a ∈ t.aliases, a.Sound) (h : Rows.loadRequired t p = .ok d) :
    Text.isBlank p = false := by
  obtain ⟨row, hrow, hfault, rfl⟩ := (loadRequired_eq_ok_iff hsound).1 h
  obtain ⟨-, rfl⟩ := mem_of_document? hrow
  unfold Document.fault? at hfault
  split at hfault
  · cases hfault
  next hblank => exact Bool.eq_false_iff.2 hblank

namespace Identity

variable {t : Tables}

theorem empty : Tables.empty.Identity where
  toReadable := ⟨Indexed.empty, by simp [Tables.empty], List.Pairwise.nil⟩
  primary := by simp [Tables.empty]
  named := by simp [Tables.empty]

/-! ## §3. Documents without fault. -/

/-- A document with aliases has exactly one primary alias. -/
theorem primaries_eq_one (h : t.Identity) {p : String} (hne : t.aliasesOf p ≠ []) :
    (t.aliasesOf p).countP (·.flag == 1) = 1 := by
  obtain ⟨a, ha⟩ := List.exists_mem_of_ne_nil _ hne
  obtain ⟨hmem, hdoc⟩ := mem_aliasesOf.1 ha
  obtain ⟨b, hb, hbdoc, hset⟩ := h.primary a hmem
  -- the invariant gives one at least, the rules of the store one at most
  have hpos : 0 < (t.aliasesOf p).countP (·.flag == 1) := by
    rw [List.countP_pos_iff]
    exact ⟨b, mem_aliasesOf.2 ⟨hb, hbdoc.trans hdoc⟩, by simpa using hset⟩
  have hle := h.primaries_le_one p
  omega

/-- No alias of a document is at fault. -/
theorem aliasFault?_documentOf (h : t.Identity) {row : DocumentRow} (hrow : row ∈ t.documents) :
    (t.documentOf row).aliases.findSome? (Document.aliasFault? (t.documentOf row).publicId)
      = none := by
  rw [List.findSome?_eq_none_iff]
  intro x hx
  obtain ⟨a, ha, rfl⟩ := List.mem_map.1 hx
  obtain ⟨hmem, hdoc⟩ := mem_aliasesOf.1 (mem_sortRows.1 ha)
  have hname : a.name ≠ row.publicId := (h.publicId_ne_name hrow hmem).symm
  show Document.aliasFault? row.publicId a.decoded = none
  unfold Document.aliasFault? AliasRow.decoded
  rw [if_neg (fun hne => hne hdoc), if_neg hname]

/-- **A stored document is without fault.** -/
theorem validate_documentOf (h : t.Identity) {row : DocumentRow} (hrow : row ∈ t.documents) :
    (t.documentOf row).validate = .ok () := by
  rw [Document.validate_eq_ok_iff]
  have hnamed : Text.isBlank (t.documentOf row).publicId = false := h.named row hrow
  unfold Document.fault?
  rw [hnamed, h.aliasFault?_documentOf hrow]
  show (t.documentOf row).primaryFault? = none
  unfold Document.primaryFault?
  by_cases hempty : t.aliasesOf row.publicId = []
  · have hnone : (t.documentOf row).aliases = [] := by
      unfold documentOf
      rw [hempty]
      rfl
    rw [if_pos hnone]
  · rw [primaryCount_documentOf, h.primaries_eq_one hempty]
    split <;> rfl

/-! ## §4. Look-ups. -/

/-- **Loading never fails**, and finds every stored document. -/
theorem loadDocument_eq (h : t.Identity) (p : String) :
    Rows.loadDocument t p = .ok ((t.document? p).map t.documentOf) := by
  unfold Rows.loadDocument
  cases hrow : t.document? p with
  | none => rfl
  | some row =>
    have hassemble := assemble_eq h.sound row
    have hvalid : Rows.validated (t.documentOf row) = .ok (t.documentOf row) := by
      unfold Rows.validated
      rw [h.validate_documentOf (mem_of_document? hrow).1]
    dsimp only
    rw [hassemble]
    show some <$> Rows.validated (t.documentOf row) = _
    rw [hvalid]
    rfl

theorem loadRequired_eq (h : t.Identity) {p : String} {row : DocumentRow}
    (hrow : t.document? p = some row) : Rows.loadRequired t p = .ok (t.documentOf row) := by
  unfold Rows.loadRequired
  rw [h.loadDocument_eq, hrow]
  rfl

theorem findAlias_eq (h : t.Identity) (n : String) :
    Rows.findAlias t n = .ok ((t.alias? n).map AliasRow.decoded) := by
  unfold Rows.findAlias
  cases ha : t.alias? n with
  | none => rfl
  | some a =>
    dsimp only
    rw [(h.sound a (mem_of_alias? ha).1).decodeAlias_eq]
    rfl

theorem findByAlias_eq (h : t.Identity) (n : String) :
    Rows.findByAlias t n
      = .ok ((t.alias? n).bind fun a => (t.document? a.document).map t.documentOf) := by
  unfold Rows.findByAlias
  cases t.alias? n with
  | none => rfl
  | some a => exact h.loadDocument_eq a.document

/-- An alias of a document is found exactly if its row is the document's. -/
theorem ownedAlias_eq_ok_iff (h : t.Identity) {p n : String} {x : Alias} :
    Rows.ownedAlias t p n = .ok x ↔
      ∃ a, t.alias? n = some a ∧ a.document = p ∧ x = a.decoded := by
  unfold Rows.ownedAlias
  rw [h.findAlias_eq]
  cases t.alias? n with
  | none =>
    constructor
    · intro hok; cases hok
    · rintro ⟨a, ha, -⟩; cases ha
  | some a =>
    show (if a.decoded.document = p then Except.ok a.decoded else .error _) = .ok x ↔ _
    by_cases hdoc : a.decoded.document = p
    · rw [if_pos hdoc]
      constructor
      · intro hok
        injection hok with hok
        exact ⟨a, rfl, hdoc, hok.symm⟩
      · rintro ⟨b, hb, -, rfl⟩
        cases hb
        rfl
    · rw [if_neg hdoc]
      constructor
      · intro hok; cases hok
      · rintro ⟨b, hb, hbdoc, -⟩
        cases hb
        exact absurd hbdoc hdoc

end Identity

end Tables

end Namebook
