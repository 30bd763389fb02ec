/-
  Namebook.Proofs.Repository.Decoding
  ───────────────────────────────────
  **DECODING, READ BACKWARDS.**

  Loading puts a document together from its rows and lets it pass if it has no fault.  What follows
  from its success, without any assumption on the tables:

    • `Document.fault?_eq_none_iff` — a document without fault, spelled out;
    • `Rows.decodeAlias_eq_ok_iff`, `Rows.mapM_decodeAlias_eq_ok_iff` — aliases say what their rows
      say, and no row is left out;
    • `Rows.assemble_eq_ok_iff` — so do documents.
-/
import Namebook.Proofs.Repository.Loading

namespace Namebook

/-! ## §1. Documents without fault. -/

namespace Document

/-- No alias is at fault. -/
theorem aliasFault?_eq_none_iff {p : String} {a : Alias} :
    aliasFault? p a = none ↔ a.document = p ∧ a.name ≠ p := by
  unfold aliasFault?
  by_cases hdoc : a.document = p
  · rw [if_neg (not_not.2 hdoc)]
    by_cases hname : a.name = p
    · rw [if_pos hname]
      exact ⟨fun h => (by cases h), fun h => absurd hname h.2⟩
    · rw [if_neg hname]
      exact ⟨fun _ => ⟨hdoc, hname⟩, fun _ => rfl⟩
  · rw [if_pos hdoc]
    exact ⟨fun h => (by cases h), fun h => absurd h.1 hdoc⟩

theorem primaryFault?_eq_none_iff {d : Document} :
    d.primaryFault? = none ↔ d.aliases = [] ∨ d.primaryCount = 1 := by
  unfold primaryFault?
  by_cases hempty : d.aliases = []
  · rw [if_pos hempty]
    exact ⟨fun _ => Or.inl hempty, fun _ => rfl⟩
  · rw [if_neg hempty]
    constructor
    · intro h
      split at h
      · cases h
      next hone => exact Or.inr hone
      · cases h
    · rintro (h | hone)
      · exact absurd h hempty
      · rw [hone]
        rfl

/-- **A document without fault**, spelled out. -/
theorem fault?_eq_none_iff {d : Document} :
    d.fault? = none ↔ Text.isBlank d.publicId = false ∧
      (∀ a ∈ d.aliases, a.document = d.publicId ∧ a.name ≠ d.publicId) ∧
      (d.aliases = [] ∨ d.primaryCount = 1) := by
  unfold fault?
  cases hblank : Text.isBlank d.publicId with
  | true =>
    rw [if_pos rfl]
    exact ⟨fun h => (by cases h), fun h => absurd h.1 (by decide)⟩
  | false =>
    rw [if_neg Bool.false_ne_true]
    have haliases : d.aliases.findSome? (aliasFault? d.publicId) = none ↔
        ∀ a ∈ d.aliases, a.document = d.publicId ∧ a.name ≠ d.publicId := by
      rw [List.findSome?_eq_none_iff]
      exact forall₂_congr fun a _ => aliasFault?_eq_none_iff
    cases hfirst : d.aliases.findSome? (aliasFault? d.publicId) with
    | some f =>
      constructor
      · intro h; cases h
      · rintro ⟨-, h, -⟩
        rw [haliases.2 h] at hfirst
        cases hfirst
    | none =>
      rw [primaryFault?_eq_none_iff]
      exact ⟨fun h => ⟨rfl, haliases.1 hfirst, h⟩, fun h => h.2.2⟩

end Document

/-! ## §2. Rows that are read. -/

namespace Rows

/-- An alias says what its row says. -/
theorem decodeAlias_eq_ok_iff {row : AliasRow} {a : Alias} :
    decodeAlias row = .ok a ↔
      (Uuid.parse? row.id, row.name, row.document, row.flag)
        = (some a.id, a.name, a.document, if a.primary then 1 else 0) := by
  unfold decodeAlias
  cases hid : Uuid.parse? row.id with
  | none =>
    constructor
    · intro h; cases h
    · intro h; cases h
  | some id =>
    dsimp only
    obtain ⟨aid, aname, aprimary, adocument⟩ := a
    by_cases hzero : row.flag = 0
    · rw [if_pos hzero, hzero]
      cases aprimary <;> simp
    · rw [if_neg hzero]
      by_cases hone : row.flag = 1
      · rw [if_pos hone, hone]
        cases aprimary <;> simp
      · rw [if_neg hone]
        cases aprimary <;> simp [hzero, hone]

/-- A row is decoded exactly if its id is one and its flag is zero or one. -/
theorem decodable_iff {row : AliasRow} : (∃ a, decodeAlias row = .ok a) ↔
    (Uuid.parse? row.id).isSome = true ∧ (row.flag = 0 ∨ row.flag = 1) := by
  constructor
  · rintro ⟨a, ha⟩
    have hread := decodeAlias_eq_ok_iff.1 ha
    simp only [Prod.mk.injEq] at hread
    obtain ⟨hid, -, -, hflag⟩ := hread
    refine ⟨by rw [hid]; rfl, ?_⟩
    cases hprimary : a.primary with
    | false => rw [hprimary] at hflag; exact Or.inl hflag
    | true => rw [hprimary] at hflag; exact Or.inr hflag
  · rintro ⟨hid, hflag⟩
    obtain ⟨u, hu⟩ := Option.isSome_iff_exists.1 hid
    refine ⟨⟨u, row.name, row.flag == 1, row.document⟩, decodeAlias_eq_ok_iff.2 ?_⟩
    rcases hflag with hflag | hflag
    · rw [hu, hflag]; rfl
    · rw [hu, hflag]; rfl

/-- Going through a list succeeds exactly if its head and its tail do. -/
theorem mapM_cons_eq_ok_iff {α β ε : Type} {f : α → Except ε β} {a : α} {as : List α} {l : List β} :
    (a :: as).mapM f = .ok l ↔ ∃ b bs, f a = .ok b ∧ as.mapM f = .ok bs ∧ l = b :: bs := by
  rw [List.mapM_cons]
  constructor
  · intro h
    cases hhead : f a with
    | error e => rw [hhead] at h; cases h
    | ok b =>
      cases htail : as.mapM f with
      | error e => rw [hhead, htail] at h; cases h
      | ok bs =>
        rw [hhead, htail] at h
        cases h
        exact ⟨b, bs, rfl, rfl, rfl⟩
  · rintro ⟨b, bs, hhead, htail, rfl⟩
    rw [hhead, htail]
    rfl

/-- **All rows are read, none is left out.** -/
theorem mapM_decodeAlias_eq_ok_iff {rows : List AliasRow} {as : List Alias} :
    rows.mapM decodeAlias = .ok as ↔
      rows.map (fun row => (Uuid.parse? row.id, row.name, row.document, row.flag))
        = as.map fun a => (some a.id, a.name, a.document, if a.primary then 1 else 0) := by
  induction rows generalizing as with
  | nil =>
    cases as with
    | nil => exact ⟨fun _ => rfl, fun _ => rfl⟩
    | cons a as =>
      constructor
      · intro h; cases h
      · intro h; cases h
  | cons row rows ih =>
    rw [mapM_cons_eq_ok_iff, List.map_cons]
    constructor
    · rintro ⟨b, bs, hrow, hrows, rfl⟩
      rw [List.map_cons, decodeAlias_eq_ok_iff.1 hrow, ih.1 hrows]
    · intro h
      cases as with
      | nil => cases h
      | cons a as =>
        obtain ⟨hrow, hrows⟩ := List.cons.inj h
        exact ⟨a, as, decodeAlias_eq_ok_iff.2 hrow, ih.2 hrows, rfl⟩

/-- Rows are decoded all together exactly if each of them is. -/
theorem exists_mapM_decodeAlias_iff {rows : List AliasRow} :
    (∃ as, rows.mapM decodeAlias = .ok as) ↔ ∀ row ∈ rows, ∃ a, decodeAlias row = .ok a := by
  induction rows with
  | nil => exact ⟨fun _ row hrow => (by cases hrow), fun _ => ⟨[], rfl⟩⟩
  | cons row rows ih =>
    rw [List.forall_mem_cons, ← ih]
    constructor
    · rintro ⟨as, h⟩
      obtain ⟨a, as', hrow, hrows, -⟩ := mapM_cons_eq_ok_iff.1 h
      exact ⟨⟨a, hrow⟩, as', hrows⟩
    · rintro ⟨⟨a, hrow⟩, as, hrows⟩
      exact ⟨a :: as, mapM_cons_eq_ok_iff.2 ⟨a, as, hrow, hrows, rfl⟩⟩

/-- A document is put together from all its rows, in order, and its own row. -/
theorem assemble_eq_ok_iff {t : Tables} {row : DocumentRow} {d : Document} :
    assemble t row = .ok d ↔
      ((Tables.sortRows (t.aliasesOf row.publicId)).mapM decodeAlias = .ok d.aliases ∧
        row = ⟨d.publicId, d.version, d.createdAt, d.updatedAt⟩) := by
  unfold assemble
  obtain ⟨publicId, version, createdAt, updatedAt⟩ := row
  obtain ⟨p, aliases, v, created, updated⟩ := d
  dsimp only
  cases (Tables.sortRows (t.aliasesOf publicId)).mapM decodeAlias with
  | error e =>
    constructor
    · intro h; cases h
    · intro h; cases h.1
  | ok as =>
    constructor
    · intro h
      cases h
      exact ⟨rfl, rfl⟩
    · rintro ⟨h, hrow⟩
      cases h
      cases hrow
      rfl

end Rows

/-! ## §3. Loaded documents. -/

namespace Tables

variable {t : Tables} {p : String} {d : Document}

/-- A document is loaded by its own public id. -/
theorem publicId_of_loadDocument (h : Rows.loadDocument t p = .ok (some d)) : d.publicId = p := by
  obtain ⟨row, hrow, hassemble, -⟩ := loadDocument_eq_some_iff.1 h
  obtain ⟨-, rfl⟩ := Rows.assemble_eq_ok_iff.1 hassemble
  exact (mem_of_document? hrow).2

end Tables

end Namebook
