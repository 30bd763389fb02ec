/-
  Namebook.Proofs.Wire
  ────────────────────
  **THE JSON FORMS — what is written is read back, and reading settles on one form.**

  For each record there are many forms that are read and one that is written.  `Reads` says which forms
  are read as which record; unknown members, the order of members and the spelling of an id do not
  matter.  `IsCanonical` says which form is written, without reference to the record:

    • `fields?_eq_some_iff`, `partialFields?_eq_some_iff` — the fields of a record;
    • `Alias.ofJson?_eq_some_iff`, … — what is read as a record;
    • `Alias.isCanonical_iff`, … — what is written for one;
    • `Coding.Lawful`, `Coding.lawful` — the laws that follow;
    • `forms_round_trip`.
-/
import Mathlib.Data.List.Forall2
import Namebook.Proofs.Uuid
import Namebook.Wire

namespace Namebook

namespace Wire

variable {α β : Type} {keys : List String} {j : Json}

/-! ## §1. Fields of a record. -/

/-- A list is read if each of its items is. -/
theorem mapM_eq_some_iff {f : α → Option β} {as : List α} {bs : List β} :
    as.mapM f = some bs ↔ List.Forall₂ (fun a b => f a = some b) as bs := by
  induction as generalizing bs with
  | nil =>
    rw [List.mapM_nil, List.forall₂_nil_left_iff]
    exact Option.some_inj.trans eq_comm
  | cons a as ih =>
    rw [List.mapM_cons, Option.bind_eq_bind, Option.bind_eq_some_iff, List.forall₂_cons_left_iff]
    constructor
    · intro ⟨b, hb, h⟩
      obtain ⟨bs', hbs, h⟩ := Option.bind_eq_some_iff.1 h
      exact ⟨b, bs', hb, ih.1 hbs, (Option.some.inj h).symm⟩
    · intro ⟨b, bs', hb, hbs, h⟩
      exact ⟨b, hb, Option.bind_eq_some_iff.2 ⟨bs', ih.2 hbs, congrArg some h.symm⟩⟩

/-- **A value gives the fields of a record**: as an object whose first member under each key has the value
of the field, or as an array of these values. -/
inductive Gives (keys : List String) : Json → List Json → Prop where
  | object {members : List (String × Json)} {values : List Json}
      (h : List.Forall₂ (fun key value => Json.member? key members = some value) keys values) :
      Gives keys (.obj members) values
  | array {values : List Json} (h : values.length = keys.length) : Gives keys (.arr values) values

theorem fields?_eq_some_iff {values : List Json} :
    fields? keys j = some values ↔ Gives keys j values := by
  constructor
  · intro h
    cases j with
    | obj members => exact .object (mapM_eq_some_iff.1 h)
    | arr items =>
      by_cases hlength : items.length = keys.length
      · rw [fields?, if_pos hlength] at h
        cases h
        exact .array hlength
      · rw [fields?, if_neg hlength] at h
        cases h
    | _ => cases h
  · intro h
    cases h with
    | object h => exact mapM_eq_some_iff.2 h
    | array h => exact if_pos h

/-- A value gives the fields that are present: as an object, or as an array of the first ones. -/
inductive Offers (keys : List String) : Json → List (Option Json) → Prop where
  | object (members : List (String × Json)) :
      Offers keys (.obj members) (keys.map (Json.member? · members))
  | array (items : List Json) (h : items.length ≤ keys.length) :
      Offers keys (.arr items)
        (items.map some ++ List.replicate (keys.length - items.length) none)

theorem partialFields?_eq_some_iff {values : List (Option Json)} :
    partialFields? keys j = some values ↔ Offers keys j values := by
  constructor
  · intro h
    cases j with
    | obj members =>
      cases h
      exact .object members
    | arr items =>
      by_cases hlength : items.length ≤ keys.length
      · rw [partialFields?, if_pos hlength] at h
        cases h
        exact .array items hlength
      · rw [partialFields?, if_neg hlength] at h
        cases h
    | _ => cases h
  · intro h
    cases h with
    | object members => rfl
    | array items h => exact if_pos h

/-! ## §2. Values of fields. -/

theorem text?_eq_some_iff {s : String} : j.text? = some s ↔ j = .str s := by
  cases j <;> simp [Json.text?]

theorem bool?_eq_some_iff {b : Bool} : j.bool? = some b ↔ j = .bool b := by
  cases j <;> simp [Json.bool?]

theorem items?_eq_some_iff {items : List Json} : j.items? = some items ↔ j = .arr items := by
  cases j <;> simp [Json.items?]

theorem int64?_eq_some_iff {v : Int64} : int64? j = some v ↔ j = .int v.toInt := by
  unfold int64?
  cases j with
  | int n =>
    show Integer.ofInt? n = some v ↔ _
    rw [Integer.ofInt?_eq_some_iff, Json.int.injEq, eq_comm]
  | _ => exact iff_of_false nofun nofun

theorem optionalText?_eq_some_iff {o : Option String} :
    optionalText? j = some o ↔ j = Json.ofText? o := by
  cases j <;> cases o <;> simp [optionalText?, Json.ofText?]

theorem texts?_eq_some_iff {ss : List String} : texts? j = some ss ↔ j = Json.ofTexts ss := by
  unfold texts? Json.ofTexts
  rw [Option.bind_eq_bind, Option.bind_eq_some_iff]
  simp only [items?_eq_some_iff, mapM_eq_some_iff, text?_eq_some_iff]
  -- texts that are read one by one are the list of them
  have hitems : ∀ items : List Json,
      List.Forall₂ (fun item s => item = .str s) items ss ↔ items = ss.map .str := by
    intro items
    rw [← List.forall₂_eq_eq_eq, List.forall₂_map_right_iff]
  constructor
  · intro ⟨items, hj, h⟩
    rw [hj, (hitems items).1 h]
  · intro h
    exact ⟨_, h, (hitems _).2 rfl⟩

/-! ## §3. Laws of a form. -/

/-- How the records of one kind are written and read: the two functions, and in two predicates which
values are read as which record, and which values are written. -/
structure Coding (α : Type) where
  encode : α → Json
  decode : Json → Option α
  Reads : Json → α → Prop
  IsCanonical : Json → Prop

/-- **The laws of a form.**  What is written is read back; reading accepts what the description says;
what has been read is written canonically, and this is read as the same record and written as it was;
and the canonical values are exactly those that reading and writing keeps. -/
structure Coding.Lawful (c : Coding α) : Prop where
  read_back : ∀ a, c.decode (c.encode a) = some a
  reads : ∀ j a, c.decode j = some a ↔ c.Reads j a
  settles : ∀ j a, c.decode j = some a → c.IsCanonical (c.encode a) ∧
    c.decode (c.encode a) = some a ∧ (c.decode (c.encode a)).map c.encode = some (c.encode a)
  kept : ∀ j, (c.decode j).map c.encode = some j ↔ c.IsCanonical j

/-- **A form is lawful** if it reads what it describes, which includes what it writes, and if it writes the
canonical values. -/
theorem Coding.lawful {c : Coding α} (hreads : ∀ j a, c.decode j = some a ↔ c.Reads j a)
    (hown : ∀ a, c.Reads (c.encode a) a) (hcanonical : ∀ j, c.IsCanonical j ↔ ∃ a, c.encode a = j) :
    c.Lawful := by
  have hback : ∀ a, c.decode (c.encode a) = some a := fun a => (hreads _ a).2 (hown a)
  refine ⟨hback, hreads, fun j a _ => ⟨(hcanonical _).2 ⟨a, rfl⟩, hback a, ?_⟩, fun j => ?_⟩
  · rw [hback a, Option.map_some]
  · rw [hcanonical, Option.map_eq_some_iff]
    constructor
    · intro ⟨a, _, ha⟩
      exact ⟨a, ha⟩
    · intro ⟨a, ha⟩
      exact ⟨a, ha ▸ hback a, ha⟩

/-- Reading an object depends on nothing but the first members under the keys. -/
def Coding.LooksAt (c : Coding α) (keys : List String) : Prop :=
  ∀ members members', (∀ key ∈ keys, Json.member? key members = Json.member? key members') →
    c.decode (.obj members) = c.decode (.obj members')

theorem fields?_congr {members members' : List (String × Json)}
    (h : ∀ key ∈ keys, Json.member? key members = Json.member? key members') :
    fields? keys (.obj members) = fields? keys (.obj members') := by
  unfold fields?
  induction keys with
  | nil => rfl
  | cons key keys ih =>
    obtain ⟨hkey, hkeys⟩ := List.forall_mem_cons.1 h
    have htail := ih hkeys
    dsimp only at htail ⊢
    rw [List.mapM_cons, List.mapM_cons, hkey, htail]

theorem partialFields?_congr {members members' : List (String × Json)}
    (h : ∀ key ∈ keys, Json.member? key members = Json.member? key members') :
    partialFields? keys (.obj members) = partialFields? keys (.obj members') :=
  congrArg some (List.map_congr_left h)

end Wire

open Wire

variable {j : Json}

/-! ## §4. Kinds of names. -/

namespace NameKind

variable {k : NameKind}

/-- The text of a kind, alone or as the only key of an object. -/
def Reads (j : Json) (k : NameKind) : Prop :=
  j = .str k.text ∨ j = .obj [(k.text, .null)]

/-- One of the two texts. -/
def IsCanonical (j : Json) : Prop :=
  j = .str "public_id" ∨ j = .str "alias"

theorem ofJson?_eq_some_iff : ofJson? j = some k ↔ Reads j k := by
  unfold Reads
  constructor
  · intro h
    unfold ofJson? at h
    split at h
    · exact Or.inl (congrArg Json.str (ofText?_eq_some_iff.1 h))
    · rw [ofText?_eq_some_iff.1 h]
      exact Or.inr rfl
    · cases h
  · intro h
    rcases h with rfl | rfl
    · exact ofText?_eq_some_iff.2 rfl
    · exact ofText?_eq_some_iff.2 rfl

theorem isCanonical_iff : IsCanonical j ↔ ∃ k : NameKind, k.toJson = j := by
  constructor
  · intro h
    rcases h with rfl | rfl
    · exact ⟨publicId, rfl⟩
    · exact ⟨aliasName, rfl⟩
  · intro ⟨k, hk⟩
    cases k with
    | publicId => exact Or.inl hk.symm
    | aliasName => exact Or.inr hk.symm

/-- The form of a kind. -/
def coding : Coding NameKind := ⟨toJson, ofJson?, Reads, IsCanonical⟩

theorem lawful_coding : coding.Lawful :=
  Coding.lawful (fun _ _ => ofJson?_eq_some_iff) (fun _ => Or.inl rfl) fun _ => isCanonical_iff

end NameKind

/-! ## §5. Aliases and views. -/

namespace Alias

variable {a : Alias}

/-- The fields of an alias, its id in any spelling. -/
def Reads (j : Json) (a : Alias) : Prop :=
  ∃ id, Uuid.Spells id a.id ∧ Gives keys j [.str id, .str a.name, .bool a.primary, .str a.document]

/-- The members of an alias in their order, with a canonical id. -/
def IsCanonical (j : Json) : Prop :=
  ∃ id name primary document, Uuid.IsCanonical id ∧
    j = .obj [("id", .str id), ("name", .str name), ("primary", .bool primary),
      ("document_public_id", .str document)]

theorem ofJson?_eq_some_iff : ofJson? j = some a ↔ Reads j a := by
  unfold Reads
  constructor
  · intro h
    unfold ofJson? at h
    split at h
    next id name primary document hfields =>
      simp only [Option.bind_eq_bind, Option.bind_eq_some_iff, text?_eq_some_iff,
        bool?_eq_some_iff, Uuid.parse?_eq_some_iff] at h
      obtain ⟨idText, rfl, u, hspells, n, rfl, b, rfl, d, rfl, ha⟩ := h
      cases ha
      exact ⟨idText, hspells, fields?_eq_some_iff.1 hfields⟩
    next => cases h
  · intro ⟨id, hspells, hgives⟩
    unfold ofJson?
    rw [fields?_eq_some_iff.2 hgives]
    show Option.bind (Uuid.parse? id) _ = _
    rw [Uuid.parse?_eq_some_iff.2 hspells]
    rfl

theorem isCanonical_iff : IsCanonical j ↔ ∃ a : Alias, a.toJson = j := by
  constructor
  · intro ⟨id, name, primary, document, hid, hj⟩
    obtain ⟨u, rfl⟩ := Uuid.isCanonical_iff.1 hid
    exact ⟨⟨u, name, primary, document⟩, hj.symm⟩
  · intro ⟨a, ha⟩
    exact ⟨a.id.render, a.name, a.primary, a.document, Uuid.isCanonical_iff.2 ⟨a.id, rfl⟩, ha.symm⟩

/-- An alias that is written is one of the values that are read as it. -/
theorem reads_toJson (a : Alias) : Reads a.toJson a :=
  ⟨a.id.render, Uuid.parse?_eq_some_iff.1 (Uuid.parse?_render a.id),
    .object (.cons rfl (.cons rfl (.cons rfl (.cons rfl .nil))))⟩

/-- The form of an alias. -/
def coding : Coding Alias := ⟨toJson, ofJson?, Reads, IsCanonical⟩

theorem lawful_coding : coding.Lawful :=
  Coding.lawful (fun _ _ => ofJson?_eq_some_iff) reads_toJson fun _ => isCanonical_iff

theorem looksAt_coding : coding.LooksAt keys := by
  intro members members' h
  show ofJson? _ = ofJson? _
  unfold ofJson?
  rw [fields?_congr h]

end Alias

namespace AliasView

variable {v : AliasView}

/-- The fields of a view. -/
def Reads (j : Json) (v : AliasView) : Prop :=
  Gives keys j [.str v.name, .bool v.primary, .str v.publicId]

/-- The members of a view in their order. -/
def IsCanonical (j : Json) : Prop :=
  ∃ name primary publicId,
    j = .obj [("name", .str name), ("primary", .bool primary), ("public_id", .str publicId)]

theorem ofJson?_eq_some_iff : ofJson? j = some v ↔ Reads j v := by
  unfold Reads
  constructor
  · intro h
    unfold ofJson? at h
    split at h
    next name primary publicId hfields =>
      simp only [Option.bind_eq_bind, Option.bind_eq_some_iff, text?_eq_some_iff,
        bool?_eq_some_iff] at h
      obtain ⟨n, rfl, b, rfl, p, rfl, hv⟩ := h
      cases hv
      exact fields?_eq_some_iff.1 hfields
    next => cases h
  · intro hgives
    unfold ofJson?
    rw [fields?_eq_some_iff.2 hgives]
    rfl

theorem isCanonical_iff : IsCanonical j ↔ ∃ v : AliasView, v.toJson = j := by
  constructor
  · intro ⟨name, primary, publicId, hj⟩
    exact ⟨⟨name, primary, publicId⟩, hj.symm⟩
  · intro ⟨v, hv⟩
    exact ⟨v.name, v.primary, v.publicId, hv.symm⟩

/-- The form of a view. -/
def coding : Coding AliasView := ⟨toJson, ofJson?, Reads, IsCanonical⟩

theorem lawful_coding : coding.Lawful :=
  Coding.lawful (fun _ _ => ofJson?_eq_some_iff)
    (fun _ => .object (.cons rfl (.cons rfl (.cons rfl .nil)))) fun _ => isCanonical_iff

theorem looksAt_coding : coding.LooksAt keys := by
  intro members members' h
  show ofJson? _ = ofJson? _
  unfold ofJson?
  rw [fields?_congr h]

end AliasView

/-! ## §6. Documents. -/

namespace Document

variable {d : Document}

/-- The fields of a document, each of its aliases in any form that is read as it. -/
def Reads (j : Json) (d : Document) : Prop :=
  ∃ items, List.Forall₂ Alias.Reads items d.aliases ∧
    Gives keys j [.str d.publicId, .arr items, .int d.version.toInt, .int d.createdAt.toInt,
      .int d.updatedAt.toInt]

/-- The members of a document in their order, with canonical aliases. -/
def IsCanonical (j : Json) : Prop :=
  ∃ (publicId : String) (items : List Json) (version createdAt updatedAt : Int64),
    (∀ item ∈ items, Alias.IsCanonical item) ∧
    j = .obj [("public_id", .str publicId), ("aliases", .arr items),
      ("version", .int version.toInt), ("created_at", .int createdAt.toInt),
      ("updated_at", .int updatedAt.toInt)]

theorem mapM_ofJson?_eq_some_iff {items : List Json} {as : List Alias} :
    items.mapM Alias.ofJson? = some as ↔ List.Forall₂ Alias.Reads items as := by
  simp only [mapM_eq_some_iff, Alias.ofJson?_eq_some_iff]

theorem ofJson?_eq_some_iff : ofJson? j = some d ↔ Reads j d := by
  unfold Reads
  constructor
  · intro h
    unfold ofJson? at h
    split at h
    next publicId aliases version createdAt updatedAt hfields =>
      simp only [Option.bind_eq_bind, Option.bind_eq_some_iff, items?_eq_some_iff,
        text?_eq_some_iff, mapM_ofJson?_eq_some_iff, int64?_eq_some_iff] at h
      obtain ⟨items, rfl, p, rfl, as, has, v, rfl, c, rfl, u, rfl, hd⟩ := h
      cases hd
      exact ⟨items, has, fields?_eq_some_iff.1 hfields⟩
    next => cases h
  · intro ⟨items, has, hgives⟩
    unfold ofJson?
    rw [fields?_eq_some_iff.2 hgives]
    simp only [Option.bind_eq_bind, Option.bind_eq_some_iff, items?_eq_some_iff,
      text?_eq_some_iff, mapM_ofJson?_eq_some_iff, int64?_eq_some_iff]
    exact ⟨items, rfl, d.publicId, rfl, d.aliases, has, d.version, rfl, d.createdAt, rfl,
      d.updatedAt, rfl, rfl⟩

/-- Canonical aliases are those of some list. -/
theorem forall_isCanonical_iff {items : List Json} :
    (∀ item ∈ items, Alias.IsCanonical item) ↔ ∃ as : List Alias, as.map Alias.toJson = items := by
  induction items with
  | nil => exact ⟨fun _ => ⟨[], rfl⟩, fun _ => List.forall_mem_nil _⟩
  | cons item items ih =>
    rw [List.forall_mem_cons, Alias.isCanonical_iff, ih]
    constructor
    · intro ⟨⟨a, ha⟩, as, has⟩
      exact ⟨a :: as, by rw [List.map_cons, ha, has]⟩
    · intro ⟨as, has⟩
      obtain ⟨a, as', rfl, ha, has'⟩ := List.map_eq_cons_iff.1 has
      exact ⟨⟨a, ha⟩, as', has'⟩

theorem isCanonical_iff : IsCanonical j ↔ ∃ d : Document, d.toJson = j := by
  constructor
  · intro ⟨publicId, items, version, createdAt, updatedAt, hitems, hj⟩
    obtain ⟨aliases, rfl⟩ := forall_isCanonical_iff.1 hitems
    exact ⟨⟨publicId, aliases, version, createdAt, updatedAt⟩, hj.symm⟩
  · intro ⟨d, hd⟩
    exact ⟨d.publicId, _, d.version, d.createdAt, d.updatedAt,
      forall_isCanonical_iff.2 ⟨d.aliases, rfl⟩, hd.symm⟩

/-- A list of aliases is one of the values that are read as it. -/
theorem forall₂_reads_toJson (as : List Alias) :
    List.Forall₂ Alias.Reads (as.map Alias.toJson) as := by
  induction as with
  | nil => exact .nil
  | cons a as ih => exact .cons (Alias.reads_toJson a) ih

/-- The form of a document. -/
def coding : Coding Document := ⟨toJson, ofJson?, Reads, IsCanonical⟩

theorem lawful_coding : coding.Lawful :=
  Coding.lawful (fun _ _ => ofJson?_eq_some_iff)
    (fun d => ⟨_, forall₂_reads_toJson d.aliases,
      .object (.cons rfl (.cons rfl (.cons rfl (.cons rfl (.cons rfl .nil)))))⟩)
    fun _ => isCanonical_iff

theorem looksAt_coding : coding.LooksAt keys := by
  intro members members' h
  show ofJson? _ = ofJson? _
  unfold ofJson?
  rw [fields?_congr h]

end Document

/-! ## §7. Configurations. -/

namespace CoreConfig

variable {α : Type} {c : CoreConfig}

/-- A field holds a value: as it is written, or by being missing where the value is the default. -/
def Holds (standard : α) (write : α → Json) (field : Option Json) (a : α) : Prop :=
  field = some (write a) ∨ field = none ∧ a = standard

/-- The fields of a configuration, the missing ones at their defaults. -/
def Reads (j : Json) (c : CoreConfig) : Prop :=
  ∃ dbPath logLevel logDir forbiddenNames,
    Offers keys j [dbPath, logLevel, logDir, forbiddenNames] ∧
    Holds default.dbPath Json.ofText? dbPath c.dbPath ∧
    Holds default.logLevel .str logLevel c.logLevel ∧
    Holds default.logDir Json.ofText? logDir c.logDir ∧
    Holds default.forbiddenNames Json.ofTexts forbiddenNames c.forbiddenNames

/-- The members of a configuration in their order, all of them. -/
def IsCanonical (j : Json) : Prop :=
  ∃ dbPath logLevel logDir forbiddenNames,
    j = .obj [("db_path", Json.ofText? dbPath), ("log_level", .str logLevel),
      ("log_dir", Json.ofText? logDir), ("forbidden_names", Json.ofTexts forbiddenNames)]

theorem fieldOr_eq_some_iff {standard a : α} {read : Json → Option α} {write : α → Json}
    {field : Option Json} (hread : ∀ {j a}, read j = some a ↔ j = write a) :
    fieldOr standard read field = some a ↔ Holds standard write field a := by
  unfold Holds
  cases field with
  | none =>
    show some standard = some a ↔ _
    rw [Option.some.injEq]
    constructor
    · intro h
      exact Or.inr ⟨rfl, h.symm⟩
    · intro h
      rcases h with h | h
      · cases h
      · exact h.2.symm
  | some j =>
    show read j = some a ↔ _
    rw [hread]
    constructor
    · intro h
      exact Or.inl (congrArg some h)
    · intro h
      rcases h with h | h
      · exact Option.some.inj h
      · cases h.1

theorem ofJson?_eq_some_iff : ofJson? j = some c ↔ Reads j c := by
  unfold Reads
  constructor
  · intro h
    unfold ofJson? at h
    split at h
    next dbPath logLevel logDir forbiddenNames hfields =>
      simp only [Option.bind_eq_bind, Option.bind_eq_some_iff,
        fieldOr_eq_some_iff optionalText?_eq_some_iff, fieldOr_eq_some_iff text?_eq_some_iff,
        fieldOr_eq_some_iff texts?_eq_some_iff] at h
      obtain ⟨p, hp, l, hl, d, hd, n, hn, hc⟩ := h
      cases hc
      exact ⟨_, _, _, _, partialFields?_eq_some_iff.1 hfields, hp, hl, hd, hn⟩
    next => cases h
  · intro ⟨dbPath, logLevel, logDir, forbiddenNames, hoffers, hp, hl, hd, hn⟩
    unfold ofJson?
    rw [partialFields?_eq_some_iff.2 hoffers]
    simp only [Option.bind_eq_bind, Option.bind_eq_some_iff,
      fieldOr_eq_some_iff optionalText?_eq_some_iff, fieldOr_eq_some_iff text?_eq_some_iff,
      fieldOr_eq_some_iff texts?_eq_some_iff]
    exact ⟨_, hp, _, hl, _, hd, _, hn, rfl⟩

theorem isCanonical_iff : IsCanonical j ↔ ∃ c : CoreConfig, c.toJson = j := by
  constructor
  · intro ⟨dbPath, logLevel, logDir, forbiddenNames, hj⟩
    exact ⟨⟨dbPath, logLevel, logDir, forbiddenNames⟩, hj.symm⟩
  · intro ⟨c, hc⟩
    exact ⟨c.dbPath, c.logLevel, c.logDir, c.forbiddenNames, hc.symm⟩

/-- The form of a configuration. -/
def coding : Coding CoreConfig := ⟨toJson, ofJson?, Reads, IsCanonical⟩

theorem lawful_coding : coding.Lawful :=
  Coding.lawful (fun _ _ => ofJson?_eq_some_iff)
    (fun _ => ⟨_, _, _, _, .object _, Or.inl rfl, Or.inl rfl, Or.inl rfl, Or.inl rfl⟩)
    fun _ => isCanonical_iff

theorem looksAt_coding : coding.LooksAt keys := by
  intro members members' h
  show ofJson? (.obj members) = ofJson? (.obj members')
  unfold ofJson?
  rw [partialFields?_congr h]

end CoreConfig

namespace RawConfig

variable {c : RawConfig}

/-- One of the paths is no text. -/
def HasOddPath (c : RawConfig) : Prop :=
  ∃ shown, c.dbPath = some (.undecodable shown) ∨ c.logDir = some (.undecodable shown)

theorem textPath?_text (text : Option String) : textPath? (text.map .text) = some text := by
  cases text <;> rfl

/-- A configuration whose paths are texts is written as these. -/
theorem toJson?_raw (t : CoreConfig) : toJson? t.raw = some t.toJson := by
  unfold toJson? CoreConfig.raw
  rw [textPath?_text, textPath?_text]
  rfl

theorem ofJson?_toJson (t : CoreConfig) : ofJson? t.toJson = some t.raw := by
  unfold ofJson?
  rw [show CoreConfig.ofJson? t.toJson = some t from CoreConfig.lawful_coding.read_back t]
  rfl

/-- Paths are texts, or one of them is none. -/
theorem exists_raw (c : RawConfig) : (∃ t : CoreConfig, t.raw = c) ∨ c.HasOddPath := by
  match c with
  | ⟨some (.undecodable shown), _, _, _⟩ => exact Or.inr ⟨shown, Or.inl rfl⟩
  | ⟨_, _, some (.undecodable shown), _⟩ => exact Or.inr ⟨shown, Or.inr rfl⟩
  | ⟨none, l, none, ns⟩ => exact Or.inl ⟨⟨none, l, none, ns⟩, rfl⟩
  | ⟨none, l, some (.text q), ns⟩ => exact Or.inl ⟨⟨none, l, some q, ns⟩, rfl⟩
  | ⟨some (.text p), l, none, ns⟩ => exact Or.inl ⟨⟨some p, l, none, ns⟩, rfl⟩
  | ⟨some (.text p), l, some (.text q), ns⟩ => exact Or.inl ⟨⟨some p, l, some q, ns⟩, rfl⟩

/-- A path that is no text cannot be written. -/
theorem toJson?_of_hasOddPath {c : RawConfig} (h : c.HasOddPath) : c.toJson? = none := by
  obtain ⟨shown, hodd⟩ := h
  unfold toJson?
  rcases hodd with hodd | hodd
  · rw [hodd]
    rfl
  · rw [hodd]
    cases textPath? c.dbPath <;> rfl

end RawConfig

/-! ## §8. All forms. -/

namespace Wire

/-- **Writing and reading.**  For documents, aliases, views, kinds and configurations what is written is
read back; whatever has been read is written canonically, which is read as the same record and written
as it was; and the canonical values are those that reading and writing keeps.  Unknown members and the
order of members do not matter, and an id may have any of its spellings.  A configuration is written
unless a path is no text, and then it is read back as well. -/
theorem forms_round_trip :
    (Document.coding.Lawful ∧ Alias.coding.Lawful ∧ AliasView.coding.Lawful ∧
      NameKind.coding.Lawful ∧ CoreConfig.coding.Lawful) ∧
    (Document.coding.LooksAt Document.keys ∧ Alias.coding.LooksAt Alias.keys ∧
      AliasView.coding.LooksAt AliasView.keys ∧ CoreConfig.coding.LooksAt CoreConfig.keys) ∧
    (∀ s u, Uuid.parse? s = some u ↔ Uuid.Spells s u) ∧
    (∀ c : RawConfig, (∃ j, c.toJson? = some j ∧ RawConfig.ofJson? j = some c) ∨
      c.HasOddPath ∧ c.toJson? = none) ∧
    ∀ j (c : RawConfig), RawConfig.ofJson? j = some c → ∃ j', c.toJson? = some j' ∧
      CoreConfig.IsCanonical j' ∧ RawConfig.ofJson? j' = some c := by
  refine ⟨⟨Document.lawful_coding, Alias.lawful_coding, AliasView.lawful_coding,
    NameKind.lawful_coding, CoreConfig.lawful_coding⟩,
    ⟨Document.looksAt_coding, Alias.looksAt_coding, AliasView.looksAt_coding,
      CoreConfig.looksAt_coding⟩, fun s u => Uuid.parse?_eq_some_iff, fun c => ?_, fun j c h => ?_⟩
  · rcases c.exists_raw with ⟨t, rfl⟩ | hodd
    · exact Or.inl ⟨t.toJson, RawConfig.toJson?_raw t, RawConfig.ofJson?_toJson t⟩
    · exact Or.inr ⟨hodd, RawConfig.toJson?_of_hasOddPath hodd⟩
  · obtain ⟨t, -, rfl⟩ := Option.map_eq_some_iff.1 h
    exact ⟨t.toJson, RawConfig.toJson?_raw t, CoreConfig.isCanonical_iff.2 ⟨t, rfl⟩,
      RawConfig.ofJson?_toJson t⟩

/-- A document in a form of its own: its members out of order and others among them, its alias with an
id in capitals. -/
def unusual : Json :=
  .obj [("color", .str "red"), ("version", .int 7), ("public_id", .str "d"),
    ("updated_at", .int (-1)), ("created_at", .int 0),
    ("aliases", .arr [.obj [("primary", .bool true), ("note", .null), ("name", .str "a"),
      ("id", .str "urn:uuid:0000004D-1111-4222-8333-00000000021C"),
      ("document_public_id", .str "d")]])]

/-- The document that it stands for. -/
def plain : Document :=
  { publicId := "d"
    aliases := [{ id := ⟨0x0000004d11114222833300000000021c⟩, name := "a", primary := true
                  document := "d" }]
    version := 7
    createdAt := 0
    updatedAt := -1 }

/-- It is written canonically, with the id in small letters, and is read back from that. -/
theorem forms_round_trip_unusual :
    Document.ofJson? unusual = some plain ∧ Document.IsCanonical plain.toJson ∧
    Document.ofJson? plain.toJson = some plain ∧
    (plain.aliases.map (·.id.render)) = ["0000004d-1111-4222-8333-00000000021c"] := by
  obtain ⟨⟨hdocument, -⟩, -⟩ := forms_round_trip
  have hread : Document.ofJson? unusual = some plain := by decide +kernel
  obtain ⟨hcanonical, hback, -⟩ := hdocument.settles unusual plain hread
  exact ⟨hread, hcanonical, hback, by decide +kernel⟩

end Wire

end Namebook
