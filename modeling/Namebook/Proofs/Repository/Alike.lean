/-
  Namebook.Proofs.Repository.Alike
  ────────────────────────────────
  **TWO STORES THAT SHOW A DOCUMENT ALIKE — up to the names of its aliases, and new ids and times.**

  The same thing is looked at in two stores.  A renaming says how the names of the one are written in the
  other, and `F` what the two sides have drawn for each other: ids of new aliases and times.

    • `Renaming`, `Drawn` — what may differ;
    • `Alike` — of aliases, of documents and of their rows;
    • `Rows.build` — what loading makes of rows, whatever store they come from;
    • `Tables.Alike.loadDocument` — documents that are stored alike load alike, or fail with one error.
-/
import Namebook.Proofs.Repository.Paired
import Namebook.Proofs.Repository.Reply
import Mathlib.Data.List.Forall2
import Mathlib.Logic.Function.Basic

namespace Namebook

/-! ## §1. Renamings. -/

/-- **A renaming of strings** that keeps what services look at in a name: its length in bytes, and
whether it is blank. -/
structure Renaming where
  apply : String → String
  bijective : Function.Bijective apply
  size : ∀ s, (apply s).utf8ByteSize = s.utf8ByteSize
  blank : ∀ s, Text.isBlank (apply s) = Text.isBlank s

namespace Renaming

instance : CoeFun Renaming fun _ => String → String := ⟨apply⟩

/-- Every name stays as it is. -/
def refl : Renaming := ⟨id, Function.bijective_id, fun _ => rfl, fun _ => rfl⟩

variable (ρ : Renaming)

theorem eq_iff {m n : String} : ρ m = ρ n ↔ m = n :=
  ρ.bijective.injective.eq_iff

theorem beq_eq (m n : String) : (ρ m == ρ n) = (m == n) := by
  rw [Bool.eq_iff_iff, beq_iff_eq, beq_iff_eq, ρ.eq_iff]

/-- A row of the name index, renamed. -/
def onEntry (row : NameRow) : NameRow := { row with name := ρ row.name }

/-- An alias row, renamed. -/
def onRow (a : AliasRow) : AliasRow := { a with name := ρ a.name }

@[simp] theorem onRow_id (a : AliasRow) : (ρ.onRow a).id = a.id := rfl

@[simp] theorem onRow_document (a : AliasRow) : (ρ.onRow a).document = a.document := rfl

@[simp] theorem onRow_flag (a : AliasRow) : (ρ.onRow a).flag = a.flag := rfl

@[simp] theorem onRow_position (a : AliasRow) : (ρ.onRow a).position = a.position := rfl

/-- An alias, renamed. -/
def onAlias (a : Alias) : Alias := { a with name := ρ a.name }

/-- An error, its alias names renamed. -/
def onError : RepositoryError → RepositoryError
  | .aliasNotFound p n => .aliasNotFound p (ρ n)
  | .nameTaken n => .nameTaken (ρ n)
  | .primaryNotSole p n count => .primaryNotSole p (ρ n) count
  | e => e

/-- **Two errors that differ in alias names only.** -/
def Errs (e e' : RepositoryError) : Prop := e' = ρ.onError e

theorem errs_ofEngine (e : EngineError) : ρ.Errs (.ofEngine e) (.ofEngine e) := rfl

theorem refl_onAlias (a : Alias) : refl.onAlias a = a := rfl

theorem refl_onError (e : RepositoryError) : refl.onError e = e := by
  cases e <;> rfl

end Renaming

/-! ## §2. What is alike. -/

/-- **The same value on both sides**, or on each side one that it has drawn. -/
def Drawn {α : Type} (F : Fresh → Fresh → Prop) (key : Fresh → α) (x x' : α) : Prop :=
  x' = x ∨ ∃ f f', F f f' ∧ x = key f ∧ x' = key f'

section Alike

variable (ρ : Renaming) (F : Fresh → Fresh → Prop)

structure AliasRow.Alike (a a' : AliasRow) : Prop where
  name : a'.name = ρ a.name
  document : a'.document = a.document
  flag : a'.flag = a.flag
  position : a'.position = a.position
  id : Drawn F (·.id.render) a.id a'.id

structure Alias.Alike (a a' : Alias) : Prop where
  name : a'.name = ρ a.name
  document : a'.document = a.document
  primary : a'.primary = a.primary
  id : Drawn F Fresh.id a.id a'.id

structure DocumentRow.Alike (d d' : DocumentRow) : Prop where
  publicId : d'.publicId = d.publicId
  version : d'.version = d.version
  createdAt : Drawn F Fresh.now d.createdAt d'.createdAt
  updatedAt : Drawn F Fresh.now d.updatedAt d'.updatedAt

structure Document.Alike (d d' : Document) : Prop where
  publicId : d'.publicId = d.publicId
  aliases : List.Forall₂ (Alias.Alike ρ F) d.aliases d'.aliases
  version : d'.version = d.version
  createdAt : Drawn F Fresh.now d.createdAt d'.createdAt
  updatedAt : Drawn F Fresh.now d.updatedAt d'.updatedAt

/-- **Two stores that show a document alike**: its row, and its alias rows in order.  Its public id is
not renamed. -/
structure Tables.Alike (p : String) (t t' : Tables) : Prop where
  document : Option.Rel (DocumentRow.Alike F) (t.document? p) (t'.document? p)
  listed : List.Forall₂ (AliasRow.Alike ρ F) (t.listed p) (t'.listed p)
  fixed : t.hasDocument p = true → ρ p = p

end Alike

/-- **Two stores that show a document the same**, up to the names of its aliases. -/
structure Tables.Mirrors (ρ : Renaming) (p : String) (t t' : Tables) : Prop where
  document : t'.document? p = t.document? p
  listed : t'.listed p = (t.listed p).map ρ.onRow
  fixed : t.hasDocument p = true → ρ p = p

variable {ρ : Renaming} {F : Fresh → Fresh → Prop}

theorem AliasRow.alike_onRow (ρ : Renaming) (F : Fresh → Fresh → Prop) (a : AliasRow) :
    a.Alike ρ F (ρ.onRow a) :=
  ⟨rfl, rfl, rfl, rfl, Or.inl rfl⟩

theorem DocumentRow.Alike.refl (F : Fresh → Fresh → Prop) (d : DocumentRow) : d.Alike F d :=
  ⟨rfl, rfl, Or.inl rfl, Or.inl rfl⟩

theorem Tables.Mirrors.alike {p : String} {t t' : Tables} (h : t.Mirrors ρ p t') :
    t.Alike ρ F p t' where
  document := by
    rw [h.document]
    cases t.document? p with
    | none => exact .none
    | some row => exact .some (DocumentRow.Alike.refl F row)
  listed := by
    rw [h.listed, List.forall₂_map_right_iff, List.forall₂_same]
    exact fun a _ => a.alike_onRow ρ F
  fixed := h.fixed

/-- What elements that correspond have in common makes one list. -/
theorem map_eq_of_forall₂ {α β γ : Type} {R : α → β → Prop} {f : α → γ} {g : β → γ} {l : List α}
    {l' : List β} (h : List.Forall₂ R l l') (hfg : ∀ a b, R a b → g b = f a) :
    l'.map g = l.map f := by
  induction h with
  | nil => rfl
  | cons hab _ ih => rw [List.map_cons, List.map_cons, hfg _ _ hab, ih]

/-! ## §3. Loading. -/

namespace Rows

/-- The document of a row and of some alias rows, if it has no fault. -/
def build (row : DocumentRow) (rows : List AliasRow) : Except RepositoryError Document := do
  let aliases ← rows.mapM decodeAlias
  validated { publicId := row.publicId
              aliases
              version := row.version
              createdAt := row.createdAt
              updatedAt := row.updatedAt }

/-- **Loading looks at the row of the document and at its alias rows in order.** -/
theorem loadDocument_eq_build (t : Tables) (p : String) :
    loadDocument t p = match t.document? p with
      | none => .ok none
      | some row => some <$> build row (t.listed p) := by
  unfold loadDocument
  cases hrow : t.document? p with
  | none => rfl
  | some row =>
    have hid := (Tables.mem_of_document? hrow).2
    dsimp only
    unfold assemble build Tables.listed
    rw [hid]
    cases (Tables.sortRows (t.aliasesOf p)).mapM decodeAlias with
    | error e => rfl
    | ok aliases => rfl

/-- Ids that correspond are both ids, or are the same text. -/
theorem parse?_drawn {s s' : String} (h : Drawn F (·.id.render) s s') :
    s' = s ∧ Uuid.parse? s = none ∨
      ∃ u u', Uuid.parse? s = some u ∧ Uuid.parse? s' = some u' ∧ Drawn F Fresh.id u u' := by
  rcases h with rfl | ⟨f, f', hF, rfl, rfl⟩
  · cases hparse : Uuid.parse? s' with
    | none => exact Or.inl ⟨rfl, rfl⟩
    | some u => exact Or.inr ⟨u, u, rfl, rfl, Or.inl rfl⟩
  · exact Or.inr ⟨f.id, f'.id, Uuid.parse?_render _, Uuid.parse?_render _,
      Or.inr ⟨f, f', hF, rfl, rfl⟩⟩

theorem paired_decodeAlias {a a' : AliasRow} (h : a.Alike ρ F a') :
    Paired ρ.Errs (fun x x' => x.Alike ρ F x' ∧ x.document = a.document)
      (decodeAlias a) (decodeAlias a') := by
  unfold decodeAlias
  rw [h.flag]
  rcases parse?_drawn h.id with ⟨hsame, hnone⟩ | ⟨u, u', hu, hu', hdrawn⟩
  · rw [hsame, hnone]
    exact rfl
  · rw [hu, hu']
    dsimp only
    by_cases hzero : a.flag = 0
    · rw [if_pos hzero, if_pos hzero]
      exact ⟨⟨h.name, h.document, rfl, hdrawn⟩, rfl⟩
    · rw [if_neg hzero, if_neg hzero]
      by_cases hone : a.flag = 1
      · rw [if_pos hone, if_pos hone]
        exact ⟨⟨h.name, h.document, rfl, hdrawn⟩, rfl⟩
      · rw [if_neg hone, if_neg hone]
        exact rfl

theorem paired_mapM_decodeAlias {rows rows' : List AliasRow} {p : String}
    (h : List.Forall₂ (AliasRow.Alike ρ F) rows rows') (howned : ∀ a ∈ rows, a.document = p) :
    Paired ρ.Errs (fun as as' => List.Forall₂ (Alias.Alike ρ F) as as' ∧ ∀ a ∈ as, a.document = p)
      (rows.mapM decodeAlias) (rows'.mapM decodeAlias) := by
  induction h with
  | nil => exact ⟨.nil, fun a ha => by cases ha⟩
  | @cons a a' rows rows' hrow _ ih =>
    rw [List.mapM_cons, List.mapM_cons]
    refine paired_bind (paired_decodeAlias hrow) fun x x' hx => ?_
    refine paired_bind (ih fun b hb => howned b (List.mem_cons_of_mem a hb)) fun as as' has => ?_
    refine ⟨.cons hx.1 has.1, fun b hb => ?_⟩
    rcases List.mem_cons.1 hb with rfl | hb
    · exact hx.2.trans (howned a List.mem_cons_self)
    · exact has.2 b hb

end Rows

namespace Document

variable {d d' : Document}

theorem aliasFault?_alike {p : String} {a a' : Alias} (hfixed : ρ p = p) (h : a.Alike ρ F a')
    (howned : a.document = p) : aliasFault? p a' = aliasFault? p a := by
  unfold aliasFault?
  have howned' : a'.document = p := h.document.trans howned
  have hname : a'.name = p ↔ a.name = p := by
    rw [h.name]
    exact ⟨fun heq => ρ.eq_iff.1 (heq.trans hfixed.symm), fun heq => by rw [heq, hfixed]⟩
  rw [if_neg (not_not.2 howned), if_neg (not_not.2 howned')]
  by_cases hp : a.name = p
  · rw [if_pos hp, if_pos (hname.2 hp)]
  · rw [if_neg hp, if_neg fun h' => hp (hname.1 h')]

/-- **Documents that are alike have the same fault**, or none. -/
theorem Alike.fault? (h : d.Alike ρ F d') (hfixed : ρ d.publicId = d.publicId)
    (howned : ∀ a ∈ d.aliases, a.document = d.publicId) : d'.fault? = d.fault? := by
  have hprimaries : d'.aliases.map (·.primary) = d.aliases.map (·.primary) :=
    map_eq_of_forall₂ h.aliases fun a a' ha => ha.primary
  have hfaults : d'.aliases.map (aliasFault? d.publicId) = d.aliases.map (aliasFault? d.publicId) := by
    have hboth := (List.forall₂_and_left d.aliases d'.aliases).2 ⟨fun a ha => ha, h.aliases⟩
    exact map_eq_of_forall₂ hboth fun a a' ha => aliasFault?_alike hfixed ha.2 (howned a ha.1)
  have hfirst : d'.aliases.findSome? (aliasFault? d.publicId)
      = d.aliases.findSome? (aliasFault? d.publicId) := by
    have heq := congrArg (List.findSome? id) hfaults
    rwa [List.findSome?_map, List.findSome?_map] at heq
  have hcount : d'.primaryCount = d.primaryCount := by
    have heq := congrArg (List.countP id) hprimaries
    rwa [List.countP_map, List.countP_map] at heq
  have hempty : d'.aliases = [] ↔ d.aliases = [] := by
    rw [← List.map_eq_nil_iff (f := fun a : Alias => a.primary), hprimaries, List.map_eq_nil_iff]
  have hprimary : d'.primaryFault? = d.primaryFault? := by
    unfold primaryFault?
    rw [hcount, h.publicId]
    exact if_congr hempty rfl rfl
  unfold Document.fault?
  rw [h.publicId, hfirst, hprimary]

/-- Aliases that correspond are primary together, and bear a name together. -/
theorem Alike.isPrimary (h : d.Alike ρ F d') (n : String) :
    (d'.primaryAlias?.any fun a => a.name == ρ n) = d.primaryAlias?.any fun a => a.name == n := by
  have hkeys : d'.aliases.map (fun a => (a.primary, a.name == ρ n))
      = d.aliases.map fun a => (a.primary, a.name == n) := by
    refine map_eq_of_forall₂ h.aliases fun a a' ha => ?_
    rw [ha.primary, ha.name, ρ.beq_eq]
  have hfirst := congrArg (fun l => (List.find? Prod.fst l).any Prod.snd) hkeys
  rwa [List.find?_map, List.find?_map, Option.any_map, Option.any_map] at hfirst

theorem Alike.length (h : d.Alike ρ F d') : d'.aliases.length = d.aliases.length :=
  h.aliases.length_eq.symm

end Document

theorem Rows.paired_build {row row' : DocumentRow} {rows rows' : List AliasRow}
    (hfixed : ρ row.publicId = row.publicId) (hrow : row.Alike F row')
    (hrows : List.Forall₂ (AliasRow.Alike ρ F) rows rows')
    (howned : ∀ a ∈ rows, a.document = row.publicId) :
    Paired ρ.Errs (Document.Alike ρ F) (build row rows) (build row' rows') := by
  unfold build
  refine paired_bind (paired_mapM_decodeAlias hrows howned) fun as as' has => ?_
  have halike : Document.Alike ρ F ⟨row.publicId, as, row.version, row.createdAt, row.updatedAt⟩
      ⟨row'.publicId, as', row'.version, row'.createdAt, row'.updatedAt⟩ :=
    ⟨hrow.publicId, has.1, hrow.version, hrow.createdAt, hrow.updatedAt⟩
  unfold validated Document.validate
  rw [halike.fault? hfixed has.2]
  split
  · exact halike
  · exact rfl

namespace Tables

variable {t t' : Tables} {p : String}

/-- **A document that is stored alike loads alike.** -/
theorem Alike.loadDocument (h : t.Alike ρ F p t') :
    Paired ρ.Errs (Option.Rel (Document.Alike ρ F)) (Rows.loadDocument t p)
      (Rows.loadDocument t' p) := by
  rw [Rows.loadDocument_eq_build, Rows.loadDocument_eq_build]
  have hdocument := h.document
  cases hrow : t.document? p with
  | none =>
    rw [hrow] at hdocument
    generalize t'.document? p = found at hdocument
    cases hdocument
    exact .none
  | some row =>
    rw [hrow] at hdocument
    generalize t'.document? p = found at hdocument
    cases hdocument with
    | @some _ row' halike =>
      obtain ⟨-, hid⟩ := mem_of_document? hrow
      subst hid
      have howned : ∀ a ∈ t.listed row.publicId, a.document = row.publicId := fun a ha =>
        (mem_listed.1 ha).2
      have hbuild := Rows.paired_build (h.fixed (hasDocument_of_document? hrow)) halike h.listed howned
      exact paired_bind hbuild fun d d' hd => .some hd

theorem Alike.loadRequired (h : t.Alike ρ F p t') :
    Paired ρ.Errs (Document.Alike ρ F) (Rows.loadRequired t p) (Rows.loadRequired t' p) := by
  unfold Rows.loadRequired
  refine paired_bind h.loadDocument fun found found' hfound => ?_
  cases hfound with
  | none => exact rfl
  | some hd => exact hd

end Tables

end Namebook
