/-
  Namebook.Proofs.Opening
  ───────────────────────
  **OPENING A STORE — it is completed, or it is left as it is.**

  Opening adds what the latest schema asks for and takes nothing away; if anything stands in the way,
  nothing is changed.  An object counts as there if something of its kind has its name, whatever its
  case and its looks, and a view counts as a table.  The requirements of repositories are stricter, so
  a store can be opened that they refuse:

    • `Catalog.Completion` — what opening makes of a store;
    • `Catalog.Lacks` — what repositories find missing first;
    • `opening_completes_or_keeps`;
    • `view_stands_for_table` — a table that is not made.
-/
import Namebook.Proofs.Schema.Migration
import Namebook.Schema.Opening
import Namebook.Schema.Readiness

namespace Namebook.Schema

namespace Catalog

variable {c c' : Catalog}

/-! ## §1. What is kept and what is made. -/

/-- **What completing a store makes of it.**  Everything that was there is there as it was, rows
included; what is new belongs to the latest schema, was missing and has no rows; and nothing of the
schema is missing any more. -/
structure Completion (c c' : Catalog) : Prop where
  version : c'.version = latestVersion
  tables : ∃ new, c'.tables = c.tables ++ new ∧ ∀ t ∈ new,
    .table t.name t.columns ∈ latestSchema ∧ c.hasRelation t.name = false ∧ t.rows = []
  views : c'.views = c.views
  indexes : ∃ new, c'.indexes = c.indexes ++ new ∧ ∀ i ∈ new,
    .index i ∈ latestSchema ∧ c.hasIndex i.name = false
  triggers : ∃ new, c'.triggers = c.triggers ++ new ∧ ∀ t ∈ new,
    .trigger t ∈ latestSchema ∧ c.hasTrigger t.name = false
  complete : ∀ d ∈ latestSchema, c'.has d = true

/-- The definitions whose objects were missing. -/
theorem mem_missing_iff {d : Definition} :
    d ∈ latestSchema.filter (!c.has ·) ↔ d ∈ latestSchema ∧ c.has d = false := by
  rw [List.mem_filter, Bool.not_eq_true']

theorem completion_completed (c : Catalog) :
    Completion c { c.completed latestSchema with version := latestVersion } := by
  have hall : c.completed latestSchema = _ := foldl_add (latestSchema.filter (!c.has ·)) c
  have hviews : (c.completed latestSchema).views = c.views := by rw [hall]
  refine ⟨rfl, ⟨_, congrArg Catalog.tables hall, ?_⟩, hviews,
    ⟨_, congrArg Catalog.indexes hall, ?_⟩, ⟨_, congrArg Catalog.triggers hall, ?_⟩, ?_⟩
  · intro t ht
    obtain ⟨d, hd, hmakes⟩ := List.mem_filterMap.1 ht
    obtain ⟨rfl, hrows⟩ := Definition.table?_eq_some_iff.1 hmakes
    exact ⟨(mem_missing_iff.1 hd).1, (mem_missing_iff.1 hd).2, hrows⟩
  · intro i hi
    obtain ⟨d, hd, hmakes⟩ := List.mem_filterMap.1 hi
    obtain rfl := Definition.index?_eq_some_iff.1 hmakes
    exact mem_missing_iff.1 hd
  · intro t ht
    obtain ⟨d, hd, hmakes⟩ := List.mem_filterMap.1 ht
    obtain rfl := Definition.trigger?_eq_some_iff.1 hmakes
    exact mem_missing_iff.1 hd
  · intro d hd
    have hfilled := has_completed (c := c) hd
    -- the version has no say in which slots are filled
    cases d <;> exact hfilled

/-! ## §2. What repositories require. -/

/-- A requirement is met: there is a table of exactly this name, and it has all the columns. -/
def Provides (c : Catalog) (r : Requirement) : Prop :=
  (∃ t ∈ c.tables, t.name = r.table) ∧ ∀ column ∈ r.columns, column ∈ c.columnsOf r.table

/-- What is missing first for a requirement: the table, or else the first of the columns. -/
inductive Lacks (c : Catalog) (r : Requirement) : RepositoryError → Prop where
  | table (htable : ∀ t ∈ c.tables, t.name ≠ r.table) : Lacks c r (.missingTable r.table)
  | column (before : List String) (column : String) (after : List String)
      (htable : ∃ t ∈ c.tables, t.name = r.table) (hcolumns : r.columns = before ++ column :: after)
      (hbefore : ∀ x ∈ before, x ∈ c.columnsOf r.table) (hmissing : column ∉ c.columnsOf r.table) :
      Lacks c r (.missingColumn r.table column)

variable {r : Requirement} {e : RepositoryError}

theorem any_name_iff {name : String} :
    c.tables.any (·.name == name) = true ↔ ∃ t ∈ c.tables, t.name = name := by
  simp only [List.any_eq_true, beq_iff_eq]

theorem missing?_of_table (h : ∃ t ∈ c.tables, t.name = r.table) :
    c.missing? r = (r.columns.find? fun column => !(c.columnsOf r.table).contains column).map
      (.missingColumn r.table ·) := by
  unfold missing?
  rw [any_name_iff.2 h, Bool.not_true, if_neg Bool.false_ne_true]

theorem missing?_of_no_table (h : ∀ t ∈ c.tables, t.name ≠ r.table) :
    c.missing? r = some (.missingTable r.table) := by
  have hnone : c.tables.any (·.name == r.table) = false := by
    rw [← Bool.not_eq_true, any_name_iff]
    intro ⟨t, ht, hname⟩
    exact h t ht hname
  unfold missing?
  rw [hnone, Bool.not_false, if_pos rfl]

theorem missing?_eq_none_iff : c.missing? r = none ↔ c.Provides r := by
  by_cases htable : ∃ t ∈ c.tables, t.name = r.table
  · rw [missing?_of_table htable, Option.map_eq_none_iff, List.find?_eq_none]
    constructor
    · intro h
      refine ⟨htable, fun column hcolumn => ?_⟩
      have hfound := h column hcolumn
      rw [Bool.not_eq_true, Bool.not_eq_false'] at hfound
      exact List.contains_iff_mem.1 hfound
    · intro h column hcolumn
      rw [Bool.not_eq_true, Bool.not_eq_false']
      exact List.contains_iff_mem.2 (h.2 column hcolumn)
  · have hnone : ∀ t ∈ c.tables, t.name ≠ r.table := fun t ht hname => htable ⟨t, ht, hname⟩
    rw [missing?_of_no_table hnone]
    exact iff_of_false nofun fun h => htable h.1

/-- **What is reported missing is the first thing that is.** -/
theorem missing?_eq_some_iff : c.missing? r = some e ↔ c.Lacks r e := by
  by_cases htable : ∃ t ∈ c.tables, t.name = r.table
  · rw [missing?_of_table htable, Option.map_eq_some_iff]
    constructor
    · intro ⟨column, hfound, he⟩
      obtain ⟨hmissing, before, after, hcolumns, hbefore⟩ := List.find?_eq_some_iff_append.1 hfound
      subst he
      refine .column before column after htable hcolumns (fun x hx => ?_) ?_
      · exact List.contains_iff_mem.1 (by simpa using hbefore x hx)
      · intro hmem
        rw [List.contains_iff_mem.2 hmem] at hmissing
        cases hmissing
    · intro hlacks
      cases hlacks with
      | table hnone =>
        obtain ⟨t, ht, hname⟩ := htable
        exact absurd hname (hnone t ht)
      | column before column after _ hcolumns hbefore hmissing =>
        refine ⟨column, List.find?_eq_some_iff_append.2 ⟨?_, before, after, hcolumns, ?_⟩, rfl⟩
        · rw [Bool.not_eq_true', ← Bool.not_eq_true, List.contains_iff_mem]
          exact hmissing
        · intro x hx
          rw [List.contains_iff_mem.2 (hbefore x hx)]
          rfl
  · have hnone : ∀ t ∈ c.tables, t.name ≠ r.table := fun t ht hname => htable ⟨t, ht, hname⟩
    rw [missing?_of_no_table hnone, Option.some.injEq]
    constructor
    · intro he
      subst he
      exact .table hnone
    · intro hlacks
      cases hlacks with
      | table _ => rfl
      | column _ _ _ hthere _ _ _ => exact absurd hthere htable

theorem ensureReady_of_latest (h : c.version = latestVersion) :
    c.ensureReady =
      match requirements.findSome? c.missing? with
      | some e => .error e
      | none => .ok () := by
  unfold ensureReady
  rw [readVersion_eq_ok_iff.2 ⟨h, by decide⟩]
  rfl

/-- **A store is ready exactly if it has the latest version and meets all requirements.** -/
theorem ensureReady_eq_ok_iff :
    c.ensureReady = .ok () ↔ c.version = latestVersion ∧ ∀ r ∈ requirements, c.Provides r := by
  by_cases hlatest : c.version = latestVersion
  · rw [ensureReady_of_latest hlatest, and_iff_right hlatest]
    simp only [← missing?_eq_none_iff]
    cases hmissing : requirements.findSome? c.missing? with
    | some e =>
      constructor
      · intro h
        cases h
      · intro h
        rw [List.findSome?_eq_none_iff.2 h] at hmissing
        cases hmissing
    | none => exact ⟨fun _ => List.findSome?_eq_none_iff.1 hmissing, fun _ => rfl⟩
  · refine ⟨fun h => ?_, fun h => absurd h.1 hlatest⟩
    unfold ensureReady at h
    cases hversion : c.readVersion with
    | error e =>
      rw [hversion] at h
      cases h
    | ok version =>
      have hother : version ≠ latestVersion := by
        intro heq
        exact hlatest (heq ▸ (readVersion_eq_ok_iff.1 hversion).1)
      rw [hversion] at h
      dsimp only at h
      rw [if_pos hother] at h
      cases h

/-- **At the latest version the first requirement that is not met is reported**, by what it lacks
first. -/
theorem ensureReady_eq_error_iff (h : c.version = latestVersion) :
    c.ensureReady = .error e ↔ ∃ before r after, requirements = before ++ r :: after ∧
      (∀ q ∈ before, c.Provides q) ∧ c.Lacks r e := by
  have hfirst : c.ensureReady = .error e ↔ requirements.findSome? c.missing? = some e := by
    rw [ensureReady_of_latest h]
    cases requirements.findSome? c.missing? with
    | some e' => rw [Except.error.injEq, Option.some.injEq]
    | none => exact iff_of_false nofun nofun
  rw [hfirst, List.findSome?_eq_some_iff]
  simp only [missing?_eq_none_iff, missing?_eq_some_iff]
  constructor
  · intro ⟨before, r, after, hsplit, hlacks, hbefore⟩
    exact ⟨before, r, after, hsplit, hbefore, hlacks⟩
  · intro ⟨before, r, after, hsplit, hbefore, hlacks⟩
    exact ⟨before, r, after, hsplit, hlacks, hbefore⟩

/-! ## §3. Where the two agree. -/

/-- What the latest schema has under the name of a required table is that table, with all required
columns. -/
theorem required_of_latestSchema : ∀ r ∈ requirements,
    ∀ t ∈ latestSchema.filterMap Definition.table?, sameName t.name r.table = true →
      t.name = r.table ∧ ∀ column ∈ r.columns, column ∈ t.columns.map (·.name) := by
  decide +kernel

/-- Every required table belongs to the latest schema. -/
theorem exists_definition_of_required : ∀ r ∈ requirements,
    ∃ t ∈ latestSchema.filterMap Definition.table?, t.name = r.table := by
  decide +kernel

theorem mem_of_table? {name : String} {t : Table} (h : c.table? name = some t) :
    t ∈ c.tables ∧ sameName t.name name = true := by
  unfold table? at h
  have hname := List.find?_some h
  exact ⟨List.mem_of_find?_eq_some h, hname⟩

/-- **A store that had nothing under the names of the required tables is ready once it is
completed.** -/
theorem Completion.ready (h : c.Completion c')
    (hunused : ∀ r ∈ requirements, c.hasRelation r.table = false) : c'.ensureReady = .ok () := by
  refine ensureReady_eq_ok_iff.2 ⟨h.version, fun r hr => ?_⟩
  obtain ⟨hnotable, hnoview⟩ := Bool.or_eq_false_iff.1 (hunused r hr)
  -- the name leads to a table, since no view has come in
  have hrelation : c'.hasRelation r.table = true := by
    obtain ⟨t, ht, hname⟩ := exists_definition_of_required r hr
    obtain ⟨d, hd, hmakes⟩ := List.mem_filterMap.1 ht
    have hfilled := h.complete d hd
    rw [(Definition.table?_eq_some_iff.1 hmakes).1, has, hname] at hfilled
    exact hfilled
  have hfound : (c'.table? r.table).isSome = true := by
    have hviews : c'.hasView r.table = false := by
      unfold hasView
      rw [h.views]
      exact hnoview
    unfold hasRelation at hrelation
    rwa [hviews, Bool.or_false] at hrelation
  obtain ⟨t, ht⟩ := Option.isSome_iff_exists.1 hfound
  obtain ⟨hthere, hsame⟩ := mem_of_table? ht
  -- and that table is a new one
  obtain ⟨new, htables, hnew⟩ := h.tables
  have hmem : t ∈ new := by
    rw [htables, List.mem_append] at hthere
    refine hthere.resolve_left fun hold => ?_
    have hfound : (c.table? r.table).isSome = true := List.find?_isSome.2 ⟨t, hold, hsame⟩
    rw [hnotable] at hfound
    cases hfound
  obtain ⟨hschema, -, hrows⟩ := hnew t hmem
  obtain ⟨hname, hcolumns⟩ := required_of_latestSchema r hr t
    (List.mem_filterMap.2 ⟨_, hschema, Definition.table?_eq_some_iff.2 ⟨rfl, hrows⟩⟩) hsame
  refine ⟨⟨t, htables ▸ List.mem_append_right _ hmem, hname⟩, fun column hcolumn => ?_⟩
  unfold columnsOf
  rw [ht]
  exact hcolumns column hcolumn

end Catalog

/-! ## §4. Opening. -/

variable {c : Catalog} {mode : StoreMode} {duration : String}

/-- What opening answers and leaves is what the migration answers and what is stored after it. -/
theorem openFile_of_migrate (mode : StoreMode) (duration : String)
    {answer : Except StoreError (List Log.Record)} {h : Handle}
    (hmigrate : (Handle.on c).migrate = (answer, h)) :
    (openFile mode duration (.catalog c)).result = answer.map (fun _ => ()) ∧
      (openFile mode duration (.catalog c)).file = .catalog h.stored := by
  have hfile : (StoreFile.catalog c).migrate = (answer, .catalog h.stored) := by
    unfold StoreFile.migrate StoreFile.read
    dsimp only
    rw [hmigrate]
  unfold openFile
  rw [hfile]
  cases answer with
  | error e => exact ⟨rfl, rfl⟩
  | ok log => exact ⟨rfl, rfl⟩

/-- A store of the latest version is opened as it is. -/
theorem openFile_of_latest (h : c.version = latestVersion) :
    (openFile mode duration (.catalog c)).result = .ok () ∧
      (openFile mode duration (.catalog c)).file = .catalog c :=
  openFile_of_migrate mode duration
    (Handle.migrate_of_latest (Catalog.readVersion_eq_ok_iff.2 ⟨h, by decide⟩))

/-- **A store without the latest schema is completed if it takes every definition.**  Otherwise it is
left as it is. -/
theorem openFile_of_older (hnonneg : 0 ≤ c.version) (hlt : c.version < latestVersion) :
    (c.TakesAll latestSchema ∧ (openFile mode duration (.catalog c)).result = .ok () ∧
      ∃ c', (openFile mode duration (.catalog c)).file = .catalog c' ∧ c.Completion c') ∨
    (¬ c.TakesAll latestSchema ∧ (∃ e, (openFile mode duration (.catalog c)).result = .error e) ∧
      (openFile mode duration (.catalog c)).file = .catalog c) := by
  obtain ⟨version, hversion⟩ := Int.eq_ofNat_of_zero_le hnonneg
  have hbelow : version < latestVersion := by omega
  have hread : c.readVersion = .ok version :=
    Catalog.readVersion_eq_ok_iff.2 ⟨hversion, Nat.lt_trans hbelow (by decide)⟩
  have hmigrate := Handle.migrate_of_older hread hbelow
  cases hall : c.defineAll latestSchema with
  | ok w =>
    obtain ⟨htakes, rfl⟩ := (Catalog.defineAll_eq_ok_iff slotsApart_latestSchema).1 hall
    rw [hall] at hmigrate
    obtain ⟨hresult, hfile⟩ := openFile_of_migrate mode duration hmigrate
    exact Or.inl ⟨htakes, hresult, _, hfile, c.completion_completed⟩
  | error e =>
    rw [hall] at hmigrate
    obtain ⟨hresult, hfile⟩ := openFile_of_migrate mode duration hmigrate
    refine Or.inr ⟨fun htakes => ?_, ⟨_, hresult⟩, hfile⟩
    rw [(Catalog.defineAll_eq_ok_iff slotsApart_latestSchema).2 ⟨htakes, rfl⟩] at hall
    cases hall

/-- **Opening a store**, whatever stands in it.  A version that is out of range or later than the latest
is refused and a store of the latest version is opened, both without a change.  An earlier store is
completed if it takes every definition of the schema, and else refused without a change; stopped after
any number of statements, it is as it was.  A store that was opened is opened again without a change.
Repositories accept a store exactly if it has the latest version and meets their requirements; at the
latest version they name what is missing first. -/
theorem opening_completes_or_keeps (mode : StoreMode) (duration : String) (c : Catalog) :
    let o := openFile mode duration (.catalog c)
    (c.version < 0 ∨ 0x100000000 ≤ c.version →
      o.result = .error (.engine (.outOfRange c.version)) ∧ o.file = .catalog c) ∧
    (latestVersion < c.version → c.version < 0x100000000 →
      o.result = .error (.unsupportedVersion c.version.toNat latestVersion) ∧ o.file = .catalog c) ∧
    (c.version = latestVersion → o.result = .ok () ∧ o.file = .catalog c) ∧
    (0 ≤ c.version → c.version < latestVersion →
      (c.TakesAll latestSchema ∧ o.result = .ok () ∧ ∃ c', o.file = .catalog c' ∧ c.Completion c') ∨
      (¬ c.TakesAll latestSchema ∧ (∃ e, o.result = .error e) ∧ o.file = .catalog c)) ∧
    (∀ version done, done <+: upgrade version →
      ((Handle.on c).run (.begin :: done)).2.stored = c) ∧
    (o.result = .ok () → ∀ mode' duration', let again := openFile mode' duration' o.file
      again.result = .ok () ∧ again.file = o.file) ∧
    (c.ensureReady = .ok () ↔ c.version = latestVersion ∧ ∀ r ∈ requirements, c.Provides r) ∧
    (c.version = latestVersion → ∀ e, c.ensureReady = .error e ↔
      ∃ before r after, requirements = before ++ r :: after ∧ (∀ q ∈ before, c.Provides q) ∧
        c.Lacks r e) := by
  have houtside : c.version < 0 ∨ 0x100000000 ≤ c.version →
      (openFile mode duration (.catalog c)).result = .error (.engine (.outOfRange c.version)) ∧
        (openFile mode duration (.catalog c)).file = .catalog c :=
    fun h => openFile_of_migrate mode duration (Handle.migrate_of_outside h)
  have hnewer : latestVersion < c.version → c.version < 0x100000000 →
      (openFile mode duration (.catalog c)).result
          = .error (.unsupportedVersion c.version.toNat latestVersion) ∧
        (openFile mode duration (.catalog c)).file = .catalog c := by
    intro hgt hlt
    exact openFile_of_migrate mode duration (Handle.migrate_of_newer (Catalog.readVersion_eq_ok_iff.2
      ⟨by omega, by omega⟩) (by omega))
  refine ⟨houtside, hnewer, openFile_of_latest, openFile_of_older, ?_, ?_,
    Catalog.ensureReady_eq_ok_iff, fun h e => Catalog.ensureReady_eq_error_iff h⟩
  · intro version done hdone
    have hcommit : Statement.commit ∉ upgrade version := by
      intro hmem
      obtain ⟨m, -, hstatement⟩ := List.mem_flatMap.1 hmem
      simp [Migration.statements] at hstatement
    exact (Handle.run_keeps (h := ⟨c, some c⟩) ⟨rfl, rfl⟩ fun h => hcommit (hdone.subset h)).1
  · intro hok mode' duration'
    -- whatever was opened has the latest version
    have hlatest : ∃ c', (openFile mode duration (.catalog c)).file = .catalog c' ∧
        c'.version = latestVersion := by
      rcases Int.lt_trichotomy c.version latestVersion with hlt | heq | hgt
      · by_cases hnonneg : 0 ≤ c.version
        · rcases openFile_of_older hnonneg hlt with ⟨-, -, c', hfile, hcompletion⟩ | ⟨-, ⟨e, he⟩, -⟩
          · exact ⟨c', hfile, hcompletion.version⟩
          · cases hok.symm.trans he
        · cases hok.symm.trans (houtside (Or.inl (by omega))).1
      · exact ⟨c, (openFile_of_latest heq).2, heq⟩
      · by_cases hbelow : c.version < 0x100000000
        · cases hok.symm.trans (hnewer hgt hbelow).1
        · cases hok.symm.trans (houtside (Or.inr (by omega))).1
    obtain ⟨c', hfile, hversion⟩ := hlatest
    rw [hfile]
    exact openFile_of_latest hversion

/-- A store half set up by another program: its documents are there, with one of them and a column that
the schema does not know, and so is one of the triggers. -/
def halfSetUp : Catalog :=
  { Catalog.empty with
    tables := [{ name := "documents"
                 columns := [.key "public_id", .plain "version", .plain "created_at",
                   .plain "updated_at", .plain "title"]
                 rows := [[some (.text "d"), some (.integer 4), none, none, some (.text "Diary")]] }]
    triggers := [{ name := "trg_documents_claim_name", table := "documents"
                   effect := .claim "public_id" .publicId namePlace }] }

/-- A store of another program in which a document has two primary aliases. -/
def twoPrimaries : Catalog :=
  { Catalog.empty with
    tables := [{ name := "aliases"
                 columns := [.key "id", .key "name", .plain "document_public_id",
                   .plain "is_primary", .plain "position"]
                 rows := [[some (.text "1"), some (.text "a"), some (.text "d"), some (.integer 1),
                     some (.integer 0)],
                   [some (.text "2"), some (.text "b"), some (.text "d"), some (.integer 1),
                     some (.integer 1)]] }] }

/-- The store half set up is completed and keeps its document; of two primary aliases the index is
refused, and with it everything else; a later version is refused. -/
theorem opening_completes_or_keeps_halfSetUp :
    (∃ c', (openFile .file "0" (.catalog halfSetUp)).file = .catalog c' ∧
      halfSetUp.Completion c' ∧ c'.tables.map (·.name) = ["documents", "identifier_names", "aliases"] ∧
      c'.tables.head? = halfSetUp.tables.head?) ∧
    (openFile .file "0" (.catalog twoPrimaries)).file = .catalog twoPrimaries ∧
    ¬ twoPrimaries.TakesAll latestSchema ∧
    (openFile .file "0" (.catalog { halfSetUp with version := 2 })).result
      = .error (.unsupportedVersion 2 1) ∧
    (openFile .memory "0" (.catalog { halfSetUp with version := -1 })).file
      = .catalog { halfSetUp with version := -1 } := by
  obtain ⟨-, -, -, holder, -⟩ := opening_completes_or_keeps .file "0" halfSetUp
  obtain ⟨-, -, -, hrefused, -⟩ := opening_completes_or_keeps .file "0" twoPrimaries
  obtain ⟨-, hnewer, -⟩ := opening_completes_or_keeps .file "0" { halfSetUp with version := 2 }
  obtain ⟨houtside, -⟩ := opening_completes_or_keeps .memory "0" { halfSetUp with version := -1 }
  refine ⟨?_, ?_, ?_, (hnewer (by decide) (by decide)).1, (houtside (by decide)).2⟩
  · rcases holder (by decide) (by decide) with ⟨-, -, c', hfile, hcompletion⟩ | ⟨-, ⟨e, he⟩, -⟩
    · refine ⟨c', hfile, hcompletion, ?_, ?_⟩
      · cases hfile.symm.trans (by rfl)
        decide +kernel
      · cases hfile.symm.trans (by rfl)
        decide +kernel
    · have hok : (openFile .file "0" (.catalog halfSetUp)).result = .ok () := by rfl
      cases hok.symm.trans he
  · rcases hrefused (by decide) (by decide) with ⟨-, hok, -⟩ | ⟨-, -, hfile⟩
    · have herror : (openFile .file "0" (.catalog twoPrimaries)).result
          = .error (.engine (.unique "aliases.document_public_id")) := by rfl
      cases hok.symm.trans herror
    · exact hfile
  · rcases hrefused (by decide) (by decide) with ⟨-, hok, -⟩ | ⟨hrefuses, -⟩
    · have herror : (openFile .file "0" (.catalog twoPrimaries)).result
          = .error (.engine (.unique "aliases.document_public_id")) := by rfl
      cases hok.symm.trans herror
    · exact hrefuses

/-- A file with a view under the name of a table. -/
def viewed : Catalog := { Catalog.empty with views := ["identifier_names"] }

/-- **A view stands for a table.**  Where a view has the name of a table, the table is missing, opening
succeeds, and the table is not made; repositories then refuse the store. -/
theorem view_stands_for_table :
    viewed.version < latestVersion ∧
    (openFile .file "0" (.catalog viewed)).result = .ok () ∧
    ∃ c', (openFile .file "0" (.catalog viewed)).file = .catalog c' ∧ c'.version = latestVersion ∧
      (∀ t ∈ c'.tables, t.name ≠ "identifier_names") ∧
      c'.ensureReady = .error (.missingTable "identifier_names") := by
  refine ⟨by decide, by rfl, _, by rfl, by rfl, by decide +kernel, by rfl⟩

end Namebook.Schema
