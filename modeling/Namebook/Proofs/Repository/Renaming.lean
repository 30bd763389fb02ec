/-
  Namebook.Proofs.Repository.Renaming
  ───────────────────────────────────
  **A STORE AND ITS RENAMING.**

  All alias names of a store, and all keys of its name index, are renamed at once; public ids stay.
  Then look-ups by the renamed name find the renamed rows, and changes go the same way:

    • `Renaming.onTables`, `onDatabase`, `onReserved` — everything that holds alias names;
    • `mirrors_onTables`, `findAlias_onTables`, `loadDocument_onTables` — look-ups;
    • `Rows.paired_build_of_middle` — loading does not depend on where a new alias stands;
    • `Work.paired_createDocument` — a document is created in both stores or in none.
-/
import Namebook.Proofs.Repository.Mirror
import Mathlib.Data.List.Find

namespace Namebook

namespace Renaming

variable (ρ : Renaming)

/-! ## §1. Everything that holds alias names. -/

/-- Tables with all alias names and all keys of the name index renamed. -/
def onTables (t : Tables) : Tables :=
  { t with names := t.names.map ρ.onEntry, aliases := t.aliases.map ρ.onRow }

/-- A database with its committed tables and any working copy renamed. -/
def onDatabase (db : Database) : Database :=
  { db with
    committed := ρ.onTables db.committed
    held := db.held.map fun h => { h with working := ρ.onTables h.working } }

/-- The reserved names, renamed. -/
def onReserved (reserved : ReservedNames) : ReservedNames :=
  ReservedNames.ofList (reserved.names.map ρ)

/-- **No public id is renamed.** -/
def Fixes (t : Tables) : Prop := ∀ d ∈ t.documents, ρ d.publicId = d.publicId

theorem contains_onReserved (reserved : ReservedNames) (n : String) :
    (ρ.onReserved reserved).contains (ρ n) = reserved.contains n := by
  rw [Bool.eq_iff_iff, onReserved, ReservedNames.contains_ofList, ReservedNames.contains,
    List.contains_iff_mem, List.mem_map]
  constructor
  · rintro ⟨m, hm, heq⟩
    rwa [ρ.eq_iff.1 heq] at hm
  · exact fun hn => ⟨n, hn, rfl⟩

variable {ρ} {t : Tables} {p n : String}

/-! ## §2. Look-ups. -/

theorem alias?_onTables (ρ : Renaming) (t : Tables) (n : String) :
    (ρ.onTables t).alias? (ρ n) = (t.alias? n).map ρ.onRow := by
  show (t.aliases.map ρ.onRow).find? (·.name == ρ n) = _
  rw [List.find?_map]
  congr 2
  funext a
  exact ρ.beq_eq a.name n

theorem name?_onTables (ρ : Renaming) (t : Tables) (n : String) :
    (ρ.onTables t).name? (ρ n) = (t.name? n).map ρ.onEntry := by
  show (t.names.map ρ.onEntry).find? (·.name == ρ n) = _
  rw [List.find?_map]
  congr 2
  funext row
  exact ρ.beq_eq row.name n

theorem aliasesOf_onTables (ρ : Renaming) (t : Tables) (p : String) :
    (ρ.onTables t).aliasesOf p = (t.aliasesOf p).map ρ.onRow := by
  show (t.aliases.map ρ.onRow).filter _ = _
  rw [List.filter_map]
  rfl

theorem nameClaim_onTables (ρ : Renaming) (t : Tables) (n : String) :
    Rows.nameClaim (ρ.onTables t) (ρ n) = Rows.nameClaim t n := by
  unfold Rows.nameClaim
  rw [name?_onTables]
  cases t.name? n with
  | none => rfl
  | some row => rfl

/-- A name that is not claimed is not claimed renamed. -/
theorem free_onTables (ρ : Renaming) (h : ∀ m ∈ t.names, m.name ≠ n) :
    ∀ m ∈ (ρ.onTables t).names, m.name ≠ ρ n := by
  intro m hm
  obtain ⟨entry, hentry, rfl⟩ := List.mem_map.1 hm
  exact fun heq => h entry hentry (ρ.eq_iff.1 heq)

/-- An id is in use in both or in none. -/
theorem any_id_onTables (ρ : Renaming) (t : Tables) (s : String) :
    (ρ.onTables t).aliases.any (·.id == s) = t.aliases.any (·.id == s) := by
  show (t.aliases.map ρ.onRow).any _ = _
  rw [List.any_map]
  rfl

/-- A document that is stored under a renamed name is stored under the name itself. -/
theorem document?_apply (h : ρ.Fixes t) (n : String) : t.document? (ρ n) = t.document? n := by
  unfold Tables.document?
  refine List.find?_congr fun d hd => ?_
  rw [← ρ.beq_eq d.publicId n, h d hd]

theorem apply_of_document? {row : DocumentRow} (h : ρ.Fixes t) (hrow : t.document? p = some row) :
    ρ p = p := by
  obtain ⟨hmem, rfl⟩ := Tables.mem_of_document? hrow
  exact h row hmem

theorem mirrors_onTables (h : ρ.Fixes t) (p : String) : t.Mirrors ρ p (ρ.onTables t) where
  document := rfl
  listed := by
    unfold Tables.listed
    rw [aliasesOf_onTables, Tables.sortRows_map ρ.onRow_position ρ.onRow_id]
  fixed := by
    intro hdoc
    obtain ⟨d, hd, hid⟩ := Tables.hasDocument_iff.1 hdoc
    rw [← hid]
    exact h d hd

theorem findAlias_onTables (ρ : Renaming) (t : Tables) (n : String) :
    Paired ρ.Errs (fun a a' => a' = a.map ρ.onAlias) (Rows.findAlias t n)
      (Rows.findAlias (ρ.onTables t) (ρ n)) :=
  Rows.paired_findAlias (alias?_onTables ρ t n)

/-- A name that is a public id is not renamed, and any other is none after renaming. -/
theorem loadDocument_onTables (F : Fresh → Fresh → Prop) (h : ρ.Fixes t) (n : String) :
    Paired ρ.Errs (Option.Rel (Document.Alike ρ F)) (Rows.loadDocument t n)
      (Rows.loadDocument (ρ.onTables t) (ρ n)) := by
  cases hrow : t.document? n with
  | none =>
    have hrow' : (ρ.onTables t).document? (ρ n) = none := (document?_apply h n).trans hrow
    rw [Tables.loadDocument_eq_none_iff.2 hrow, Tables.loadDocument_eq_none_iff.2 hrow']
    exact .none
  | some row =>
    rw [apply_of_document? h hrow]
    exact (mirrors_onTables h n).alike.loadDocument

theorem findByAlias_onTables (F : Fresh → Fresh → Prop) (h : ρ.Fixes t) (n : String) :
    Paired ρ.Errs (Option.Rel (Document.Alike ρ F)) (Rows.findByAlias t n)
      (Rows.findByAlias (ρ.onTables t) (ρ n)) := by
  unfold Rows.findByAlias
  rw [alias?_onTables]
  cases t.alias? n with
  | none => exact .none
  | some a => exact (mirrors_onTables h a.document).alike.loadDocument

/-- Setting the flag of the row with an id is accepted by both or by none. -/
theorem promote_onTables (ρ : Renaming) (u : Uuid) (t : Tables) :
    Paired ρ.Errs (fun _ _ => True) (Rows.promote u t) (Rows.promote u (ρ.onTables t)) := by
  unfold Rows.promote
  refine paired_mapError ?_
  generalize u.render = s
  have hfind : (ρ.onTables t).aliases.find? (·.id == s)
      = (t.aliases.find? (·.id == s)).map ρ.onRow := List.find?_map
  unfold Tables.setFlag
  rw [hfind]
  cases t.aliases.find? (·.id == s) with
  | none => exact trivial
  | some row =>
    refine paired_ite rfl rfl fun _ => ?_
    refine paired_ite ?_ rfl fun _ => trivial
    show (t.onePrimary && _ && (t.aliases.map ρ.onRow).any _) = _
    rw [List.any_map]
    rfl

theorem demoteAll_onTables (ρ : Renaming) (p : String) (t : Tables) :
    Rows.demoteAll p (ρ.onTables t) = ρ.onTables (Rows.demoteAll p t) := by
  unfold Rows.demoteAll Tables.updateAliases onTables
  dsimp only
  rw [List.map_map, List.map_map]
  congr 1
  refine List.map_congr_left fun a _ => ?_
  show (if (a.document == p && a.flag == 1) = true then _ else _)
    = ρ.onRow (if (a.document == p && a.flag == 1) = true then _ else _)
  split <;> rfl

end Renaming

variable {ρ : Renaming} {F : Fresh → Fresh → Prop} {f f' : Fresh} {t : Tables} {p n : String}

/-! ## §3. A new alias among others. -/

/-- Aliases that a document owns can be at fault in one way only. -/
theorem Document.findSome?_aliasFault {as : List Alias} (h : ∀ a ∈ as, a.document = p) :
    as.findSome? (aliasFault? p)
      = if as.any (·.name == p) then some (.aliasShadowsPublicId p) else none := by
  induction as with
  | nil => rfl
  | cons a as ih =>
    have hfault : aliasFault? p a
        = if a.name = p then some (.aliasShadowsPublicId p) else none := by
      unfold aliasFault?
      rw [if_neg (not_not.2 (h a List.mem_cons_self))]
    rw [List.findSome?_cons, List.any_cons, hfault]
    by_cases hname : a.name = p
    · rw [if_pos hname, hname, beq_self_eq_true, Bool.true_or]
      rfl
    · rw [if_neg hname, beq_eq_false_iff_ne.2 hname, Bool.false_or]
      exact ih fun b hb => h b (List.mem_cons_of_mem a hb)

/-- **The fault of a document does not depend on the order of its aliases.** -/
theorem Document.fault?_of_perm {d : Document} {as : List Alias} (hperm : as.Perm d.aliases)
    (h : ∀ a ∈ d.aliases, a.document = d.publicId) :
    { d with aliases := as }.fault? = d.fault? := by
  have hfirst : as.findSome? (aliasFault? d.publicId)
      = d.aliases.findSome? (aliasFault? d.publicId) := by
    rw [findSome?_aliasFault h, findSome?_aliasFault fun a ha => h a (hperm.mem_iff.1 ha),
      hperm.any_eq]
  have hprimary : { d with aliases := as }.primaryFault? = d.primaryFault? := by
    have hcount : as.countP (·.primary) = d.aliases.countP (·.primary) := hperm.countP_eq _
    unfold primaryFault? primaryCount
    dsimp only
    rw [hcount]
    refine if_congr ⟨fun hnil => ?_, fun hnil => ?_⟩ rfl rfl
    · subst hnil
      exact hperm.nil_eq.symm
    · rw [hnil] at hperm
      exact hperm.eq_nil
  unfold fault?
  dsimp only
  rw [hfirst, hprimary]

/-- Documents of which the log tells the same. -/
def Document.SameInLog (d d' : Document) : Prop :=
  d'.publicId = d.publicId ∧ d'.aliases.length = d.aliases.length

/-- **Loading does not depend on where a row stands that can be decoded**, except for the order of the
aliases. -/
theorem Rows.paired_build_of_middle {row : DocumentRow} {l₁ l₂ : List AliasRow} {a : AliasRow}
    {x : Alias} (hdecode : decodeAlias a = .ok x)
    (howned : ∀ b ∈ l₁ ++ a :: l₂, b.document = row.publicId) :
    Paired Eq Document.SameInLog (build row (l₁ ++ a :: l₂)) (build row (l₁ ++ l₂ ++ [a])) := by
  unfold build
  rw [List.mapM_append, List.mapM_append, List.mapM_append, List.mapM_cons, List.mapM_cons, hdecode]
  cases h₁ : l₁.mapM decodeAlias with
  | error e => exact rfl
  | ok as₁ =>
    cases h₂ : l₂.mapM decodeAlias with
    | error e => exact rfl
    | ok as₂ =>
      have hall : (l₁ ++ a :: l₂).mapM decodeAlias = .ok (as₁ ++ x :: as₂) := by
        rw [List.mapM_append, List.mapM_cons, hdecode, h₁, h₂]
        rfl
      have howners : ∀ b ∈ as₁ ++ x :: as₂, b.document = row.publicId := by
        have hread := congrArg (List.map fun k => k.2.2.1) (mapM_decodeAlias_eq_ok_iff.1 hall)
        rw [List.map_map, List.map_map] at hread
        intro b hb
        have hmem : b.document ∈ (as₁ ++ x :: as₂).map Alias.document := List.mem_map_of_mem hb
        rw [show (as₁ ++ x :: as₂).map Alias.document = (l₁ ++ a :: l₂).map AliasRow.document from
          hread.symm] at hmem
        obtain ⟨r, hr, hdoc⟩ := List.mem_map.1 hmem
        rw [← hdoc, howned r hr]
      have hperm : (as₁ ++ as₂ ++ [x]).Perm (as₁ ++ x :: as₂) := by
        rw [List.append_assoc]
        exact List.perm_append_comm.append_left as₁
      show Paired Eq Document.SameInLog
        (validated ⟨row.publicId, as₁ ++ x :: as₂, row.version, row.createdAt, row.updatedAt⟩)
        (validated ⟨row.publicId, as₁ ++ as₂ ++ [x], row.version, row.createdAt, row.updatedAt⟩)
      have hfault := Document.fault?_of_perm
        (d := ⟨row.publicId, as₁ ++ x :: as₂, row.version, row.createdAt, row.updatedAt⟩) hperm howners
      unfold validated Document.validate
      dsimp only at hfault
      rw [hfault]
      split
      · exact ⟨rfl, hperm.length_eq⟩
      · exact rfl

theorem Rows.loadRequired_eq_build {row : DocumentRow} (h : t.document? p = some row) :
    loadRequired t p = build row (t.listed p) := by
  unfold loadRequired
  rw [loadDocument_eq_build, h]
  dsimp only
  cases build row (t.listed p) with
  | error e => rfl
  | ok d => rfl

/-- **A first alias is loaded with whatever rows the document had before it was stored.** -/
theorem Rows.paired_loadRequired_withAlias {s s' t' : Tables} {row row' : DocumentRow}
    {a a' : AliasRow} {x x' : Alias} (hrow : s.document? p = some row)
    (hrow' : s'.document? p = some row') (halike : row.Alike F row') (hfixed : ρ p = p)
    (hlisted : t'.listed p = (t.listed p).map ρ.onRow)
    (hrows : s.aliasesOf p = t.aliasesOf p ++ [a]) (hrows' : s'.aliasesOf p = t'.aliasesOf p ++ [a'])
    (ha : a.Alike ρ F a') (hid : ∀ b ∈ t.aliasesOf p, b.id ≠ a.id)
    (hid' : ∀ b ∈ t'.aliasesOf p, b.id ≠ a'.id)
    (hdecode : decodeAlias a = .ok x) (hdecode' : decodeAlias a' = .ok x') :
    Paired ρ.Errs Document.SameInLog (loadRequired s p) (loadRequired s' p) := by
  obtain ⟨l₁, l₂, hsorted, hold⟩ := Tables.exists_sortRows_concat hid
  obtain ⟨l₁', l₂', hsorted', hold'⟩ := Tables.exists_sortRows_concat hid'
  have hpublicId := (Tables.mem_of_document? hrow).2
  have hpublicId' := (Tables.mem_of_document? hrow').2
  have hlist : s.listed p = l₁ ++ a :: l₂ := by
    unfold Tables.listed
    rw [hrows, hsorted]
  have hlist' : s'.listed p = l₁' ++ a' :: l₂' := by
    unfold Tables.listed
    rw [hrows', hsorted']
  have howned : ∀ b ∈ l₁ ++ a :: l₂, b.document = row.publicId := by
    rw [← hlist, hpublicId]
    exact fun b hb => (Tables.mem_listed.1 hb).2
  have howned' : ∀ b ∈ l₁' ++ a' :: l₂', b.document = row'.publicId := by
    rw [← hlist', hpublicId']
    exact fun b hb => (Tables.mem_listed.1 hb).2
  rw [loadRequired_eq_build hrow, loadRequired_eq_build hrow', hlist, hlist']
  -- with the new row moved to the end on both sides, rows correspond one by one
  have hmiddle : Paired ρ.Errs (Document.Alike ρ F) (build row (l₁ ++ l₂ ++ [a]))
      (build row' (l₁' ++ l₂' ++ [a'])) := by
    refine paired_build (by rw [hpublicId, hfixed]) halike ?_ fun b hb => ?_
    · refine List.rel_append ?_ (.cons ha .nil)
      have hlisted : l₁' ++ l₂' = (l₁ ++ l₂).map ρ.onRow := by
        rw [← hold, ← hold']
        exact hlisted
      rw [hlisted, List.forall₂_map_right_iff, List.forall₂_same]
      exact fun b _ => b.alike_onRow ρ F
    · refine howned b ?_
      rw [List.append_assoc] at hb
      exact (List.perm_append_comm.append_left l₁).mem_iff.1 hb
  have hends := ((paired_build_of_middle hdecode howned).trans hmiddle).trans
    (paired_build_of_middle hdecode' howned').symm
  refine hends.mono ?_ ?_
  · rintro e e' ⟨_, ⟨_, rfl, herr⟩, rfl⟩
    exact herr
  · rintro d d' ⟨d₃, ⟨d₂, hd₂, hd₃⟩, hd'⟩
    exact ⟨hd'.1.symm.trans (hd₃.publicId.trans hd₂.1),
      hd'.2.symm.trans (hd₃.length.trans hd₂.2)⟩

/-! ## §4. Creating a document. -/

namespace Work

open Tables

/-- A name is claimed in both stores or in none. -/
theorem paired_ensureUnclaimed (ρ : Renaming) (t : Tables) (n : String) :
    Work.Paired ρ.Errs (fun _ s _ s' => s = t ∧ s' = ρ.onTables t ∧ ∀ m ∈ t.names, m.name ≠ n)
      (ensureUnclaimed n) t (ensureUnclaimed (ρ n)) (ρ.onTables t) := by
  unfold ensureUnclaimed
  refine paired_query_bind (paired_of_blames (Renaming.nameClaim_onTables ρ t n)
    (Rows.nameClaim_blames t n)) fun claim claim' hclaim => ?_
  obtain ⟨rfl, hclaim⟩ := hclaim
  cases claim' with
  | none => exact ⟨rfl, rfl, Rows.nameClaim_eq_none_iff.1 hclaim⟩
  | some k => exact paired_throw rfl

/-- A document row is inserted into both stores or into none. -/
theorem paired_insertDocument (hfixed : ρ p = p) (hfree : ∀ m ∈ t.names, m.name ≠ p)
    (now now' : Int64) :
    Namebook.Paired ρ.Errs
      (fun s s' => s = t.withDocument ⟨p, 0, now, now⟩ ∧
        s' = (ρ.onTables t).withDocument ⟨p, 0, now', now'⟩ ∧ t.document? p = none)
      (Rows.insertDocument p now t) (Rows.insertDocument p now' (ρ.onTables t)) := by
  have hfree' : ∀ m ∈ (ρ.onTables t).names, m.name ≠ p := by
    rw [← hfixed]
    exact Renaming.free_onTables ρ hfree
  by_cases hstored : ∀ d ∈ t.documents, d.publicId ≠ p
  · have hgranted' : Rows.insertDocument p now' (ρ.onTables t)
        = .ok ((ρ.onTables t).withDocument ⟨p, 0, now', now'⟩) :=
      Rows.insertDocument_eq_ok_iff.2 ⟨hstored, hfree', rfl⟩
    rw [Rows.insertDocument_eq_ok_iff.2 ⟨hstored, hfree, rfl⟩, hgranted']
    exact ⟨rfl, rfl, find?_key_eq_none_iff.2 hstored⟩
  · -- the id is taken in both stores
    have hany : t.documents.any (·.publicId == p) = true := by
      push Not at hstored
      obtain ⟨d, hd, hid⟩ := hstored
      exact List.any_eq_true.2 ⟨d, hd, beq_iff_eq.2 hid⟩
    have hrefused : ∀ (u : Tables) (now : Int64), u.documents = t.documents →
        Rows.insertDocument p now u = .error (Rows.claimError p (.unique "documents.public_id")) := by
      intro u now hdocuments
      unfold Rows.insertDocument Tables.insertDocument
      rw [hdocuments, if_pos hany]
      rfl
    rw [hrefused t now rfl, hrefused (ρ.onTables t) now' rfl]
    have herror := errs_claimError (ρ := ρ) p (.unique "documents.public_id")
    rwa [hfixed] at herror

theorem document?_withDocument_self (row : DocumentRow) (h : t.document? row.publicId = none) :
    (t.withDocument row).document? row.publicId = some row := by
  show (t.documents ++ [row]).find? _ = _
  rw [List.find?_append]
  have hnone : t.documents.find? (·.publicId == row.publicId) = none := h
  rw [hnone, Option.none_or]
  exact List.find?_cons_of_pos (beq_self_eq_true row.publicId)

theorem aliasesOf_withAlias_self (t : Tables) (a : AliasRow) :
    (t.withAlias a).aliasesOf a.document = t.aliasesOf a.document ++ [a] := by
  rw [aliasesOf_withAlias, List.filter_cons_of_pos (by simp), List.filter_nil]

theorem ne_of_documents {s : Tables} {row : DocumentRow}
    (h : s.documents = t.documents ++ [row]) : s ≠ t := by
  rintro rfl
  simp at h

/-- The first alias of a new document is inserted into both stores or into none. -/
theorem paired_insertFirst (hfixed : ρ p = p) (hne : n ≠ p) (hfree : ∀ m ∈ t.names, m.name ≠ n)
    (hids : (ρ.onTables t).aliases.any (·.id == f'.id.render) = t.aliases.any (·.id == f.id.render))
    (row row' : DocumentRow) (hrow : row.publicId = p) (hrow' : row'.publicId = p) :
    Namebook.Paired ρ.Errs
      (fun s s' => s = (t.withDocument row).withAlias (Rows.aliasRow ⟨f.id, n, true, p⟩ 0) ∧
        s' = ((ρ.onTables t).withDocument row').withAlias (Rows.aliasRow ⟨f'.id, ρ n, true, p⟩ 0) ∧
        (∀ b ∈ t.aliases, b.id ≠ f.id.render) ∧
        ∀ b ∈ (ρ.onTables t).aliases, b.id ≠ f'.id.render)
      (Rows.insertAlias ⟨f.id, n, true, p⟩ 0 (t.withDocument row))
      (Rows.insertAlias ⟨f'.id, ρ n, true, p⟩ 0 ((ρ.onTables t).withDocument row')) := by
  have hne' : ρ n ≠ p := fun heq => hne (ρ.eq_iff.1 (heq.trans hfixed.symm))
  -- the only new claim is that of the public id
  have hunclaimed : ∀ {u : Tables} {r : DocumentRow} {m : String}, (∀ e ∈ u.names, e.name ≠ m) →
      r.publicId = p → m ≠ p → (u.withDocument r).names.any (·.name == m) = false := by
    intro u r m hnone hr hm
    refine any_key_eq_false_iff.2 fun e he => ?_
    rcases List.mem_append.1 he with he | he
    · exact hnone e he
    · rw [List.mem_singleton.1 he]
      exact fun heq => hm (heq.symm.trans hr)
  have htaken : (ρ.onTables t).aliases.any (·.name == ρ n) = t.aliases.any (·.name == n) := by
    rw [← isSome_alias?, ← isSome_alias?, Renaming.alias?_onTables, Option.isSome_map]
  have hstored : ∀ (u : Tables) (r : DocumentRow), r.publicId = p →
      (u.withDocument r).hasDocument p = true := by
    intro u r hr
    rw [← hr]
    exact hasDocument_withDocument u r
  have hinsert := paired_insert (t.withDocument row) ((ρ.onTables t).withDocument row')
    ⟨f.id, n, true, p⟩ ⟨f'.id, ρ n, true, p⟩ 0 0 rfl rfl ?_ htaken hids
    ((hunclaimed (Renaming.free_onTables ρ hfree) hrow' hne').trans (hunclaimed hfree hrow hne).symm)
    ((hstored _ row' hrow').trans (hstored _ row hrow).symm)
  · exact hinsert.mono (fun _ _ he => he) fun s s' hs =>
      ⟨hs.1, hs.2.1, any_key_eq_false_iff.1 hs.2.2, any_key_eq_false_iff.1 (hids.trans hs.2.2)⟩
  · show (t.onePrimary && _ && (t.aliases.map ρ.onRow).any _) = _
    rw [List.any_map]
    rfl

/-- **A document is created in both stores or in none.** -/
theorem paired_createDocument (hF : F f f') (hfixes : ρ.Fixes t) (hfixed : ρ p = p)
    (initial : Option String)
    (hids : (ρ.onTables t).aliases.any (·.id == f'.id.render)
      = t.aliases.any (·.id == f.id.render)) :
    Work.Paired ρ.Errs (fun d s d' s' => d.SameInLog d' ∧ (s = t ↔ s' = ρ.onTables t))
      (createDocument f p initial) t (createDocument f' p (initial.map ρ)) (ρ.onTables t) := by
  have hensure := paired_ensureUnclaimed ρ t p
  rw [hfixed] at hensure
  have hlisted := (Renaming.mirrors_onTables hfixes p).listed
  unfold createDocument
  refine paired_bind hensure ?_
  rintro _ s _ s' ⟨hs, hs', hfree⟩
  rw [hs, hs']
  have hstored := paired_insertDocument hfixed hfree f.now f'.now
  have halike : (DocumentRow.mk p 0 f.now f.now).Alike F ⟨p, 0, f'.now, f'.now⟩ :=
    ⟨rfl, rfl, Or.inr ⟨f, f', hF, rfl, rfl⟩, Or.inr ⟨f, f', hF, rfl, rfl⟩⟩
  have hfound : ∀ (u : Tables) (now : Int64), u.document? p = none →
      (u.withDocument ⟨p, 0, now, now⟩).document? p = some ⟨p, 0, now, now⟩ := fun u now =>
    document?_withDocument_self ⟨p, 0, now, now⟩
  cases initial with
  | none =>
    refine paired_change_bind hstored ?_
    rintro _ _ ⟨rfl, rfl, hnone⟩
    have hshown : (t.withDocument ⟨p, 0, f.now, f.now⟩).Alike ρ F p
        ((ρ.onTables t).withDocument ⟨p, 0, f'.now, f'.now⟩) := by
      refine ⟨?_, ?_, fun _ => hfixed⟩
      · rw [hfound t f.now hnone, hfound (ρ.onTables t) f'.now hnone]
        exact .some halike
      · show List.Forall₂ _ (t.listed p) ((ρ.onTables t).listed p)
        exact (Renaming.mirrors_onTables hfixes p).alike.listed
    exact paired_query (hshown.loadRequired.mono (fun _ _ he => he) fun d d' hd =>
      ⟨⟨hd.publicId, hd.length⟩, iff_of_false (ne_of_documents rfl) (ne_of_documents rfl)⟩)
  | some n =>
    show Work.Paired _ _ (if n = p then _ else _) t (if ρ n = p then _ else _) (ρ.onTables t)
    by_cases hname : n = p
    · have hname' : ρ n = p := by rw [hname, hfixed]
      rw [if_pos hname, if_pos hname']
      refine paired_bind (V := fun _ _ _ _ => False) ?_ fun _ _ _ _ h => absurd h id
      exact paired_throw (congrArg RepositoryError.nameTaken rfl)
    · have hname' : ρ n ≠ p := fun heq => hname (ρ.eq_iff.1 (heq.trans hfixed.symm))
      rw [if_neg hname, if_neg hname']
      refine paired_bind (paired_ensureUnclaimed ρ t n) ?_
      rintro _ s _ s' ⟨hs, hs', hfreeName⟩
      rw [hs, hs']
      refine paired_change_bind hstored ?_
      rintro _ _ ⟨rfl, rfl, hnone⟩
      refine paired_change_bind (paired_insertFirst hfixed hname hfreeName hids _ _ rfl rfl) ?_
      rintro _ _ ⟨rfl, rfl, hfresh, hfresh'⟩
      have hrows : ∀ (u : Tables) (now : Int64) (g : Uuid) (m : String),
          ((u.withDocument ⟨p, 0, now, now⟩).withAlias (Rows.aliasRow ⟨g, m, true, p⟩ 0)).aliasesOf p
            = u.aliasesOf p ++ [Rows.aliasRow ⟨g, m, true, p⟩ 0] := fun u now g m =>
        aliasesOf_withAlias_self (u.withDocument ⟨p, 0, now, now⟩)
          (Rows.aliasRow ⟨g, m, true, p⟩ 0)
      have hdecode : ∀ (g : Uuid) (m : String), Rows.decodeAlias (Rows.aliasRow ⟨g, m, true, p⟩ 0)
          = .ok ⟨g, m, true, p⟩ := by
        intro g m
        rw [Rows.decodeAlias_eq_ok_iff]
        show (Uuid.parse? g.render, m, p, (1 : Int64)) = (some g, m, p, 1)
        rw [Uuid.parse?_render]
      refine paired_query (Namebook.Paired.mono (E := ρ.Errs) (V := Document.SameInLog) ?_
        (fun _ _ he => he) fun d d' hd =>
          ⟨hd, iff_of_false (ne_of_documents rfl) (ne_of_documents rfl)⟩)
      refine Rows.paired_loadRequired_withAlias (hfound t f.now hnone)
        (hfound (ρ.onTables t) f'.now hnone) halike hfixed hlisted (hrows t f.now f.id n)
        (hrows (ρ.onTables t) f'.now f'.id (ρ n))
        ⟨rfl, rfl, rfl, rfl, Or.inr ⟨f, f', hF, rfl, rfl⟩⟩
        (fun b hb => ?_) (fun b hb => ?_) (hdecode f.id n) (hdecode f'.id (ρ n))
      · exact hfresh b (mem_aliasesOf.1 hb).1
      · exact hfresh' b (mem_aliasesOf.1 hb).1

end Work

end Namebook
