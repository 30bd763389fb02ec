/-
  Namebook.Proofs.Store.Index
  ───────────────────────────
  **THE NAME INDEX STAYS IN STEP — the row invariant that statements keep.**

  `Claims` says that the name index holds one row per public id, one per alias, nothing else, and no
  name twice.  `Indexed` adds what the other rules of the store give: distinct alias ids, owners
  that exist, and at most one primary alias per document.

  The lemmas:

    • `Claims.…` and `Indexed.…` for each of the four forms that a statement can write;
    • `Claims.unclaimed_iff`, `Claims.alias?_eq_some_iff`, … — what the index says of the rows.
-/
import Namebook.Proofs.Store.Statement

namespace Namebook

/-! ## §1. Lists with distinct keys. -/

section Keys

variable {α κ : Type} {key : α → κ}

/-- Rows with distinct keys are found by their key. -/
theorem find?_key_eq_some_iff [DecidableEq κ] {rows : List α}
    (h : rows.Pairwise fun a b => key a ≠ key b) {k : κ} {a : α} :
    rows.find? (fun x => key x == k) = some a ↔ a ∈ rows ∧ key a = k := by
  constructor
  · intro hfind
    exact ⟨List.mem_of_find?_eq_some hfind, by simpa using List.find?_some hfind⟩
  · rintro ⟨hmem, rfl⟩
    induction rows with
    | nil => cases hmem
    | cons b rows ih =>
      obtain ⟨hb, hrows⟩ := List.pairwise_cons.1 h
      rw [List.find?_cons]
      rcases List.mem_cons.1 hmem with rfl | hmem
      · simp
      · have hne : (key b == key a) = false := by simpa using hb a hmem
        rw [hne]
        exact ih hrows hmem

theorem find?_key_eq_none_iff [DecidableEq κ] {rows : List α} {k : κ} :
    rows.find? (fun x => key x == k) = none ↔ ∀ a ∈ rows, key a ≠ k := by
  simp [List.find?_eq_none]

theorem any_key_eq_false_iff [DecidableEq κ] {rows : List α} {k : κ} :
    rows.any (fun x => key x == k) = false ↔ ∀ a ∈ rows, key a ≠ k := by
  simp [List.any_eq_false]

/-- Two rows with one key are one row. -/
theorem eq_of_key_eq {rows : List α} (h : rows.Pairwise fun a b => key a ≠ key b) {a b : α}
    (ha : a ∈ rows) (hb : b ∈ rows) (hkey : key a = key b) : a = b := by
  induction rows with
  | nil => cases ha
  | cons c rows ih =>
    obtain ⟨hc, hrows⟩ := List.pairwise_cons.1 h
    rcases List.mem_cons.1 ha with hac | ha <;> rcases List.mem_cons.1 hb with hbc | hb
    · rw [hac, hbc]
    · exact absurd hkey (hac ▸ hc b hb)
    · exact absurd hkey.symm (hbc ▸ hc a ha)
    · exact ih hrows ha hb

/-- Where no two rows pass a test together, one passes at most. -/
theorem countP_le_one {p : α → Bool} {rows : List α}
    (h : rows.Pairwise fun a b => p a = true → p b = false) : rows.countP p ≤ 1 := by
  induction rows with
  | nil => simp
  | cons a rows ih =>
    obtain ⟨ha, hrows⟩ := List.pairwise_cons.1 h
    rw [List.countP_cons]
    by_cases hp : p a = true
    · have hnone : rows.countP p = 0 := by
        rw [List.countP_eq_zero]
        intro b hb
        simp [ha b hb hp]
      have hone : (if p a = true then 1 else 0) = 1 := if_pos hp
      omega
    · rw [if_neg hp]
      exact ih hrows

end Keys

namespace Tables

/-! ## §2. The index. -/

/-- The rows that the name index should hold. -/
def entries (t : Tables) : List NameRow :=
  t.documents.map documentEntry ++ t.aliases.map aliasEntry

/-- **The name index is in step**: it holds a row per document and a row per alias, nothing else,
and no name twice. -/
structure Claims (t : Tables) : Prop where
  entries : t.names.Perm t.entries
  distinct : t.names.Pairwise fun m n => m.name ≠ n.name

namespace Claims

variable {t : Tables}

theorem distinct_entries (h : t.Claims) : t.entries.Pairwise fun m n => m.name ≠ n.name :=
  (h.entries.pairwise_iff fun hne => hne.symm).1 h.distinct

theorem publicIds (h : t.Claims) : t.documents.Pairwise fun d e => d.publicId ≠ e.publicId := by
  have hleft := (List.pairwise_append.1 h.distinct_entries).1
  rw [List.pairwise_map] at hleft
  exact hleft

theorem aliasNames (h : t.Claims) : t.aliases.Pairwise fun a b => a.name ≠ b.name := by
  have hright := (List.pairwise_append.1 h.distinct_entries).2.1
  rw [List.pairwise_map] at hright
  exact hright

/-- No name is a public id and an alias. -/
theorem publicId_ne_name (h : t.Claims) {d : DocumentRow} {a : AliasRow} (hd : d ∈ t.documents)
    (ha : a ∈ t.aliases) : d.publicId ≠ a.name :=
  (List.pairwise_append.1 h.distinct_entries).2.2 (documentEntry d)
    (List.mem_map.2 ⟨d, hd, rfl⟩) (aliasEntry a) (List.mem_map.2 ⟨a, ha, rfl⟩)

/-- A name in the index is the public id of a document or the name of an alias. -/
theorem mem_names_iff (h : t.Claims) {n : NameRow} :
    n ∈ t.names ↔ (∃ d ∈ t.documents, documentEntry d = n) ∨
      (∃ a ∈ t.aliases, aliasEntry a = n) := by
  rw [h.entries.mem_iff]
  simp [Tables.entries]

theorem unclaimed_iff (h : t.Claims) {s : String} :
    (∀ n ∈ t.names, n.name ≠ s) ↔
      (∀ d ∈ t.documents, d.publicId ≠ s) ∧ (∀ a ∈ t.aliases, a.name ≠ s) := by
  constructor
  · intro hfree
    constructor
    · intro d hd
      exact hfree (documentEntry d) (h.mem_names_iff.2 (Or.inl ⟨d, hd, rfl⟩))
    · intro a ha
      exact hfree (aliasEntry a) (h.mem_names_iff.2 (Or.inr ⟨a, ha, rfl⟩))
  · rintro ⟨hdocs, haliases⟩ n hn
    rcases h.mem_names_iff.1 hn with ⟨d, hd, rfl⟩ | ⟨a, ha, rfl⟩
    · exact hdocs d hd
    · exact haliases a ha

/-! ### Look-ups. -/

theorem document?_eq_some_iff (h : t.Claims) {p : String} {d : DocumentRow} :
    t.document? p = some d ↔ d ∈ t.documents ∧ d.publicId = p :=
  find?_key_eq_some_iff h.publicIds

theorem alias?_eq_some_iff (h : t.Claims) {n : String} {a : AliasRow} :
    t.alias? n = some a ↔ a ∈ t.aliases ∧ a.name = n :=
  find?_key_eq_some_iff h.aliasNames

/-! ### The four forms of a change. -/

theorem empty : Tables.empty.Claims :=
  ⟨List.Perm.refl _, List.Pairwise.nil⟩

/-- A new row comes with a new name. -/
theorem distinct_append {n : NameRow} (h : t.Claims) (hfree : ∀ m ∈ t.names, m.name ≠ n.name) :
    (t.names ++ [n]).Pairwise fun m n => m.name ≠ n.name := by
  rw [List.pairwise_append]
  refine ⟨h.distinct, List.pairwise_singleton _ _, ?_⟩
  intro m hm m' hm'
  rw [List.mem_singleton.1 hm']
  exact hfree m hm

theorem withDocument {row : DocumentRow} (h : t.Claims)
    (hfree : ∀ n ∈ t.names, n.name ≠ row.publicId) : (t.withDocument row).Claims where
  entries := by
    show (t.names ++ [documentEntry row]).Perm
      ((t.documents ++ [row]).map documentEntry ++ t.aliases.map aliasEntry)
    rw [List.map_append, List.append_assoc]
    calc (t.names ++ [documentEntry row]).Perm (t.entries ++ [documentEntry row]) :=
          h.entries.append_right _
      _ = t.documents.map documentEntry ++ (t.aliases.map aliasEntry ++ [documentEntry row]) :=
          List.append_assoc ..
      _ |>.Perm (t.documents.map documentEntry ++
            ([row].map documentEntry ++ t.aliases.map aliasEntry)) :=
          (List.perm_append_comm).append_left _
  distinct := h.distinct_append hfree

theorem withAlias {row : AliasRow} (h : t.Claims) (hfree : ∀ n ∈ t.names, n.name ≠ row.name) :
    (t.withAlias row).Claims where
  entries := by
    show (t.names ++ [aliasEntry row]).Perm
      (t.documents.map documentEntry ++ (t.aliases ++ [row]).map aliasEntry)
    rw [List.map_append, ← List.append_assoc]
    exact h.entries.append_right _
  distinct := h.distinct_append hfree

theorem updateDocument {p : String} {f : DocumentRow → DocumentRow} (h : t.Claims)
    (hf : ∀ d, (f d).publicId = d.publicId) : (t.updateDocument p f).Claims where
  entries := by
    have hmap : (t.updateDocument p f).documents.map documentEntry
        = t.documents.map documentEntry := by
      have hkeys := updateDocument_publicIds (p := p) (t := t) hf
      have hfold : ∀ ds : List DocumentRow, ds.map documentEntry
          = (ds.map (·.publicId)).map fun s => ⟨s, NameKind.publicId.text⟩ := by
        intro ds
        rw [List.map_map]
        rfl
      rw [hfold, hkeys, ← hfold]
    show t.names.Perm (_ ++ t.aliases.map aliasEntry)
    rw [hmap]
    exact h.entries
  distinct := h.distinct

theorem updateAliases {selects : AliasRow → Bool} {f : AliasRow → AliasRow} (h : t.Claims)
    (hf : ∀ a, (f a).name = a.name) : (t.updateAliases selects f).Claims where
  entries := by
    have hmap : (t.updateAliases selects f).aliases.map aliasEntry = t.aliases.map aliasEntry :=
      updateAliases_map fun a => by unfold aliasEntry; rw [hf a]
    show t.names.Perm (t.documents.map documentEntry ++ _)
    rw [hmap]
    exact h.entries
  distinct := h.distinct

theorem aliasEntry_ne_documentEntry (a : AliasRow) (d : DocumentRow) :
    aliasEntry a ≠ documentEntry d := by
  intro h
  have hkind : NameKind.aliasName.text = NameKind.publicId.text := congrArg NameRow.kind h
  exact absurd hkind (by decide)

/-- The claims that removed aliases give up are those of the removed rows. -/
theorem withoutAliases {gone : AliasRow → Bool} (h : t.Claims) : (t.withoutAliases gone).Claims where
  entries := by
    have hfilter := h.entries.filter
      (fun n => !(t.aliases.filter gone).any fun a => aliasEntry a == n)
    -- claims of public ids are of another kind
    have hdocs : (t.documents.map documentEntry).filter
        (fun n => !(t.aliases.filter gone).any fun a => aliasEntry a == n)
          = t.documents.map documentEntry := by
      rw [List.filter_eq_self]
      intro n hn
      obtain ⟨d, -, rfl⟩ := List.mem_map.1 hn
      simp only [Bool.not_eq_true', List.any_eq_false, beq_iff_eq]
      intro a _
      exact aliasEntry_ne_documentEntry a d
    have haliases : (t.aliases.map aliasEntry).filter
        (fun n => !(t.aliases.filter gone).any fun a => aliasEntry a == n)
          = (t.aliases.filter (!gone ·)).map aliasEntry := by
      rw [List.filter_map]
      congr 1
      apply List.filter_congr
      intro a ha
      -- a row shares its entry with a removed row only if it is that row
      show (!(t.aliases.filter gone).any fun b => aliasEntry b == aliasEntry a) = !gone a
      congr 1
      rw [Bool.eq_iff_iff, List.any_eq_true]
      constructor
      · rintro ⟨b, hb, hentry⟩
        obtain ⟨hbmem, hbgone⟩ := List.mem_filter.1 hb
        have hname : b.name = a.name := congrArg NameRow.name (beq_iff_eq.1 hentry)
        rw [← eq_of_key_eq h.aliasNames hbmem ha hname]
        exact hbgone
      · intro hgone
        exact ⟨a, List.mem_filter.2 ⟨ha, hgone⟩, by simp⟩
    show ((t.names.filter _)).Perm (t.documents.map documentEntry ++
      (t.aliases.filter (!gone ·)).map aliasEntry)
    rw [← haliases, ← hdocs, ← List.filter_append]
    exact hfilter
  distinct := h.distinct.filter _

/-- Removing a document row together with its claim. -/
theorem dropDocument {p : String} (h : t.Claims) :
    ({ t with
      documents := t.documents.filter (·.publicId != p)
      names := t.names.filter fun n => !(⟨p, NameKind.publicId.text⟩ == n) } : Tables).Claims where
  entries := by
    have hfilter := h.entries.filter (fun n => !((⟨p, NameKind.publicId.text⟩ : NameRow) == n))
    have hdocs : (t.documents.map documentEntry).filter
        (fun n => !((⟨p, NameKind.publicId.text⟩ : NameRow) == n))
          = (t.documents.filter (·.publicId != p)).map documentEntry := by
      rw [List.filter_map]
      congr 1
      apply List.filter_congr
      intro d _
      show (!((⟨p, NameKind.publicId.text⟩ : NameRow) == documentEntry d)) = (d.publicId != p)
      unfold bne
      congr 1
      rw [Bool.eq_iff_iff]
      simp only [beq_iff_eq, documentEntry, NameRow.mk.injEq, and_true]
      exact eq_comm
    -- claims of aliases are of another kind, whatever their names are
    have haliases : (t.aliases.map aliasEntry).filter
        (fun n => !((⟨p, NameKind.publicId.text⟩ : NameRow) == n)) = t.aliases.map aliasEntry := by
      rw [List.filter_eq_self]
      intro n hn
      obtain ⟨a, -, rfl⟩ := List.mem_map.1 hn
      simp only [Bool.not_eq_true', beq_eq_false_iff_ne, ne_eq]
      intro heq
      exact absurd (congrArg NameRow.kind heq) (by show ¬("public_id" = "alias"); decide)
    show (t.names.filter _).Perm ((t.documents.filter (·.publicId != p)).map documentEntry ++
      t.aliases.map aliasEntry)
    rw [← hdocs, ← haliases, ← List.filter_append]
    exact hfilter
  distinct := h.distinct.filter _

end Claims

/-! ## §3. The rules of the store. -/

/-- **The store obeys its rules**: the name index is in step, alias ids are distinct, owners exist,
and no document has two primary aliases. -/
structure Indexed (t : Tables) : Prop extends t.Claims where
  ids : t.aliases.Pairwise fun a b => a.id ≠ b.id
  owners : ∀ a ∈ t.aliases, t.hasDocument a.document = true
  index : t.onePrimary = true
  primaries : t.aliases.Pairwise fun a b => a.document = b.document → a.flag = 1 → b.flag ≠ 1

namespace Indexed

variable {t t' : Tables}

theorem empty : Tables.empty.Indexed where
  toClaims := Claims.empty
  ids := List.Pairwise.nil
  owners := by simp [Tables.empty]
  index := rfl
  primaries := List.Pairwise.nil

/-- Two primary aliases of one document are one. -/
theorem eq_of_primary (h : t.Indexed) {a b : AliasRow} (ha : a ∈ t.aliases) (hb : b ∈ t.aliases)
    (hdoc : a.document = b.document) (hset : a.flag = 1) (hset' : b.flag = 1) : a = b := by
  -- among the rows with their flag set, the owner is a key
  have hkeys : (t.aliases.filter (·.flag == 1)).Pairwise fun x y => x.document ≠ y.document := by
    refine (h.primaries.filter _).imp_of_mem ?_
    intro x y hx hy hxy hsame
    have hxset := beq_iff_eq.1 (List.mem_filter.1 hx).2
    have hyset := beq_iff_eq.1 (List.mem_filter.1 hy).2
    exact hxy hsame hxset hyset
  exact eq_of_key_eq hkeys (List.mem_filter.2 ⟨ha, beq_iff_eq.2 hset⟩)
    (List.mem_filter.2 ⟨hb, beq_iff_eq.2 hset'⟩) hdoc

/-- One primary alias per document at most, counted. -/
theorem primaries_le_one (h : t.Indexed) (p : String) :
    (t.aliasesOf p).countP (·.flag == 1) ≤ 1 := by
  apply countP_le_one
  unfold aliasesOf
  refine (h.primaries.filter _).imp_of_mem ?_
  intro a b ha hb hab hset
  have hdoc : a.document = b.document := by
    have hap := (List.mem_filter.1 ha).2
    have hbp := (List.mem_filter.1 hb).2
    exact (beq_iff_eq.1 hap).trans (beq_iff_eq.1 hbp).symm
  simpa using hab hdoc (beq_iff_eq.1 hset)

theorem withDocument {row : DocumentRow} (h : t.Indexed)
    (hfree : ∀ n ∈ t.names, n.name ≠ row.publicId) : (t.withDocument row).Indexed where
  toClaims := h.toClaims.withDocument hfree
  ids := h.ids
  owners := by
    intro a ha
    obtain ⟨d, hd, hp⟩ := hasDocument_iff.1 (h.owners a ha)
    exact hasDocument_iff.2 ⟨d, List.mem_append_left _ hd, hp⟩
  index := h.index
  primaries := h.primaries

/-- A property of pairs of rows holds with a new last row if it holds of each old row with it. -/
theorem pairwise_withAlias {R : AliasRow → AliasRow → Prop} {row : AliasRow}
    (h : t.aliases.Pairwise R) (hrow : ∀ a ∈ t.aliases, R a row) :
    (t.withAlias row).aliases.Pairwise R := by
  show (t.aliases ++ [row]).Pairwise R
  rw [List.pairwise_append]
  refine ⟨h, List.pairwise_singleton _ _, ?_⟩
  intro a ha b hb
  rw [List.mem_singleton.1 hb]
  exact hrow a ha

theorem withAlias {row : AliasRow} (h : t.Indexed) (hrow : t.Admits row) :
    (t.withAlias row).Indexed where
  toClaims := h.toClaims.withAlias hrow.unclaimed
  ids := pairwise_withAlias h.ids hrow.id
  owners := by
    intro a ha
    show t.hasDocument a.document = true
    rcases List.mem_append.1 ha with ha | ha
    · exact h.owners a ha
    · rw [List.mem_singleton.1 ha]
      exact hrow.owner
  index := h.index
  primaries := by
    refine pairwise_withAlias h.primaries ?_
    intro a ha hdoc hset hrowset
    exact hrow.primary h.index hrowset a ha hdoc hset

theorem updateDocument {p : String} {f : DocumentRow → DocumentRow} (h : t.Indexed)
    (hf : ∀ d, (f d).publicId = d.publicId) : (t.updateDocument p f).Indexed where
  toClaims := h.toClaims.updateDocument hf
  ids := h.ids
  owners := by
    intro a ha
    obtain ⟨d, hd, hp⟩ := hasDocument_iff.1 (h.owners a ha)
    have hmem : d.publicId ∈ (t.updateDocument p f).documents.map (·.publicId) := by
      rw [updateDocument_publicIds hf]
      exact List.mem_map.2 ⟨d, hd, rfl⟩
    obtain ⟨e, he, heq⟩ := List.mem_map.1 hmem
    exact hasDocument_iff.2 ⟨e, he, heq.trans hp⟩
  index := h.index
  primaries := h.primaries

/-- Rows that change in place keep the rules if their names and owners stay and the new ids and
flags obey theirs. -/
theorem updateAliases {selects : AliasRow → Bool} {f : AliasRow → AliasRow} (h : t.Indexed)
    (hname : ∀ a, (f a).name = a.name) (hdoc : ∀ a, (f a).document = a.document)
    (hids : (t.updateAliases selects f).aliases.Pairwise fun a b => a.id ≠ b.id)
    (hprimaries : (t.updateAliases selects f).aliases.Pairwise
      fun a b => a.document = b.document → a.flag = 1 → b.flag ≠ 1) :
    (t.updateAliases selects f).Indexed where
  toClaims := h.toClaims.updateAliases hname
  ids := hids
  owners := by
    intro a ha
    obtain ⟨b, hb, rfl⟩ := List.mem_map.1 ha
    show t.hasDocument (if selects b then f b else b).document = true
    split
    · rw [hdoc b]
      exact h.owners b hb
    · exact h.owners b hb
  index := h.index
  primaries := hprimaries

/-- Ids that stay are still distinct. -/
theorem ids_updateAliases {selects : AliasRow → Bool} {f : AliasRow → AliasRow} (h : t.Indexed)
    (hid : ∀ a, (f a).id = a.id) :
    (t.updateAliases selects f).aliases.Pairwise fun a b => a.id ≠ b.id := by
  have hmap : (t.updateAliases selects f).aliases.map (·.id) = t.aliases.map (·.id) :=
    updateAliases_map hid
  have hpair : (t.aliases.map (·.id)).Pairwise (· ≠ ·) := List.pairwise_map.2 h.ids
  rw [← hmap] at hpair
  exact List.pairwise_map.1 hpair

/-- Flags that are only taken away leave one primary alias per document at most. -/
theorem primaries_updateAliases {selects : AliasRow → Bool} {f : AliasRow → AliasRow}
    (h : t.Indexed) (hdoc : ∀ a, (f a).document = a.document)
    (hflag : ∀ a, (f a).flag = 1 → a.flag = 1) :
    (t.updateAliases selects f).aliases.Pairwise
      fun a b => a.document = b.document → a.flag = 1 → b.flag ≠ 1 := by
  rw [updateAliases_aliases, List.pairwise_map]
  refine h.primaries.imp ?_
  intro a b hab
  have hdoc' : ∀ c, (if selects c then f c else c).document = c.document := by
    intro c; split
    · exact hdoc c
    · rfl
  have hflag' : ∀ c, (if selects c then f c else c).flag = 1 → c.flag = 1 := by
    intro c; split
    · exact hflag c
    · exact id
  rw [hdoc' a, hdoc' b]
  intro hsame ha hb
  exact hab hsame (hflag' a ha) (hflag' b hb)

/-- **Setting the flag of one row.** -/
theorem setFlag {selects : AliasRow → Bool} {value : Int64} (h : t.Indexed)
    (hone : ∀ a ∈ t.aliases, ∀ b ∈ t.aliases, selects a = true → selects b = true → a.id = b.id)
    (hset : t.setFlag Rules.all selects value = .ok t') : t'.Indexed := by
  obtain ⟨hfirst, rfl⟩ := setFlag_eq_ok_iff.1 hset
  refine h.updateAliases (fun _ => rfl) (fun _ => rfl) (h.ids_updateAliases fun _ => rfl) ?_
  rw [updateAliases_aliases, List.pairwise_map]
  -- whoever is selected is the first that is selected
  have hsel : ∀ a ∈ t.aliases, selects a = true → value = 1 → ∀ b ∈ t.aliases,
      selects b = false → b.document = a.document → b.flag ≠ 1 := by
    intro a ha hsa hvalue b hb hsb hdoc
    cases hfind : t.aliases.find? selects with
    | none => exact absurd hsa (by simpa using List.find?_eq_none.1 hfind a ha)
    | some row =>
      have hrow := List.mem_of_find?_eq_some hfind
      have heq : row = a := eq_of_key_eq h.ids hrow ha
        (hone row hrow a ha (List.find?_some hfind) hsa)
      subst heq
      exact (hfirst row hfind).2 h.index hvalue b hb hsb hdoc
  -- neither, one or the other is selected; both never are, as their ids differ
  refine List.Pairwise.imp_of_mem ?_ (List.Pairwise.and h.ids h.primaries)
  intro a b ha hb hab
  obtain ⟨hid, hprim⟩ := hab
  cases hsa : selects a <;> cases hsb : selects b
  · simpa using hprim
  · simp only [Bool.false_eq_true, if_false, if_true]
    intro hdoc hset hvalue
    exact hsel b hb hsb hvalue a ha hsa hdoc hset
  · simp only [Bool.false_eq_true, if_false, if_true]
    intro hdoc hvalue hset
    exact hsel a ha hsa hvalue b hb hsb hdoc.symm hset
  · exact absurd (hone a ha b hb hsa hsb) hid

theorem withoutAliases {gone : AliasRow → Bool} (h : t.Indexed) :
    (t.withoutAliases gone).Indexed where
  toClaims := h.toClaims.withoutAliases
  ids := h.ids.filter _
  owners := fun a ha => h.owners a (List.mem_filter.1 ha).1
  index := h.index
  primaries := h.primaries.filter _

/-- A document goes with all its aliases, so no owner is missed. -/
theorem withoutDocument {p : String} (h : t.Indexed) : (t.withoutDocument p).Indexed where
  toClaims := h.toClaims.dropDocument.withoutAliases
  ids := h.ids.filter _
  owners := by
    intro a ha
    obtain ⟨hmem, hkeep⟩ := List.mem_filter.1 ha
    have hne : a.document ≠ p := by simpa using hkeep
    obtain ⟨d, hd, hdoc⟩ := hasDocument_iff.1 (h.owners a hmem)
    refine hasDocument_iff.2 ⟨d, List.mem_filter.2 ⟨hd, ?_⟩, hdoc⟩
    simpa [hdoc] using hne
  index := h.index
  primaries := h.primaries.filter _

theorem deleteDocument {p : String} (h : t.Indexed) :
    (t.deleteDocument Rules.all p).Indexed := by
  rw [deleteDocument_eq]
  split
  · exact h.withoutDocument
  · exact h

end Indexed

end Tables

end Namebook
