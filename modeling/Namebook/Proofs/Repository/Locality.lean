/-
  Namebook.Proofs.Repository.Locality
  ───────────────────────────────────
  **TABLES THAT AGREE ON A DOCUMENT AND A NAME.**

  Nothing is said of what else they hold: other documents may be damaged in one of them and not in the
  other.  Keys are unique and ids canonical, so that the row that is found is the row that is written.

    • `Regular` — which tables are considered; `Regular.granted` — changes keep it;
    • `Agrees`, `AgreesOn` — on one document, and on what a call names;
    • `Agrees.mirrors`, `Agrees.loadDocument` — look-ups and changes see the same;
    • `name?_createAlias`, `name?_deleteAlias`, `alias?_granted` — what a change does to names.
-/
import Namebook.Proofs.Repository.Mirror

namespace Namebook

namespace Tables

/-! ## §1. Regular tables. -/

/-- **Rows as a store keeps them whose ids are in canonical spelling**: every column that is a key is
one.  Owners, flags, positions and versions may be anything, and so may what the name index holds. -/
structure Regular (t : Tables) : Prop extends t.Canonical where
  entries : t.names.Pairwise fun m m' => m.name ≠ m'.name

variable {t t' t'' : Tables} {p q n m : String} {fresh : Fresh} {d : Document}

theorem pairwise_concat {α : Type} {R : α → α → Prop} {l : List α} {a : α} (h : l.Pairwise R)
    (ha : ∀ b ∈ l, R b a) : (l ++ [a]).Pairwise R := by
  refine List.pairwise_append.2 ⟨h, List.pairwise_singleton _ _, fun b hb c hc => ?_⟩
  rw [List.mem_singleton.1 hc]
  exact ha b hb

/-- **A granted change keeps keys unique and ids canonical.** -/
theorem Regular.granted {r : Request} {w : Work Document} (h : t.Regular)
    (hwork : r.work? fresh = some w) (hrun : w.runOn t = (.ok d, t')) : t'.Regular := by
  have hkept : (∀ a ∈ t'.aliases, ∃ u : Uuid, a.id = u.render) ∧
      t'.names.Pairwise fun m m' => m.name ≠ m'.name := by
    refine kept_of_granted (P := fun s => (∀ a ∈ s.aliases, ∃ u : Uuid, a.id = u.render) ∧
      s.names.Pairwise fun m m' => m.name ≠ m'.name) (fun s s' hform hs => ?_)
      ⟨h.spelled, h.entries⟩ hwork hrun
    cases hform with
    | withDocument hids hfree => exact ⟨hs.1, pairwise_concat hs.2 hfree⟩
    | withAlias hadmits =>
      refine ⟨fun a ha => ?_, pairwise_concat hs.2 hadmits.unclaimed⟩
      rcases List.mem_append.1 ha with ha | ha
      · exact hs.1 a ha
      · rw [List.mem_singleton.1 ha]
        exact ⟨_, rfl⟩
    | withoutAliases gone => exact ⟨fun a ha => hs.1 a (List.mem_filter.1 ha).1, hs.2.filter _⟩
    | flagMoved hset =>
      refine ⟨fun a ha => ?_, hs.2⟩
      rw [flagMoved_aliases] at ha
      obtain ⟨b, hb, rfl⟩ := List.mem_map.1 ha
      rw [promotedRow_id]
      exact hs.1 b hb
    | touched p now version => exact hs
  exact ⟨⟨h.toUnique.granted hwork hrun, hkept.1⟩, hkept.2⟩

/-! ## §2. Agreement. -/

/-- **Two stores agree on a document**: on its row, and on its alias rows in whatever order they are
kept. -/
structure Agrees (q : String) (t t' : Tables) : Prop where
  document : t'.document? q = t.document? q
  aliases : (t'.aliasesOf q).Perm (t.aliasesOf q)

/-- **Two stores agree on what a call on the document `p` and the name `n` is about**: on the document,
on the alias of that name and the document that owns it, on the document with that public id, and on the
claim of the name. -/
structure AgreesOn (p n : String) (t t' : Tables) : Prop where
  document : t.Agrees p t'
  found : t'.alias? n = t.alias? n
  owner : ∀ a ∈ t.alias? n, t.Agrees a.document t'
  named : t.Agrees n t'
  claim : t'.name? n = t.name? n

theorem Canonical.distinct (h : t.Canonical) (q : String) : Distinct (t.aliasesOf q) :=
  (h.ids.filter _).imp fun hne hsame => hne hsame.2

namespace Agrees

theorem listed (h : t.Agrees q t') (hids : Distinct (t.aliasesOf q)) : t'.listed q = t.listed q :=
  sortRows_congr h.aliases hids

/-- Both stores show the document the same. -/
theorem mirrors (h : t.Agrees q t') (hids : Distinct (t.aliasesOf q)) :
    t.Mirrors Renaming.refl q t' where
  document := h.document
  listed := by
    rw [h.listed hids]
    exact (List.map_id _).symm
  fixed := fun _ => rfl

theorem loadDocument (h : t.Agrees q t') (hids : Distinct (t.aliasesOf q)) :
    Rows.loadDocument t' q = Rows.loadDocument t q := by
  rw [Rows.loadDocument_eq_build, Rows.loadDocument_eq_build, h.document, h.listed hids]

end Agrees

theorem AgreesOn.findAlias (h : t.AgreesOn p n t') : Rows.findAlias t' n = Rows.findAlias t n := by
  unfold Rows.findAlias
  rw [h.found]

theorem AgreesOn.findByAlias (h : t.AgreesOn p n t') (hcanonical : t.Canonical) :
    Rows.findByAlias t' n = Rows.findByAlias t n := by
  unfold Rows.findByAlias
  rw [h.found]
  cases hrow : t.alias? n with
  | none => rfl
  | some a => exact (h.owner a hrow).loadDocument (hcanonical.distinct a.document)

/-- What a change spares is listed as before. -/
theorem Spares.listed {names : List String} (h : t.Spares t' p names) (hne : q ≠ p) :
    t'.listed q = t.listed q := by
  unfold Tables.listed
  rw [h.aliases q hne]

/-- A document that is spared is loaded as before, or fails to load as before. -/
theorem Spares.loadDocument {names : List String} (h : t.Spares t' p names) (hne : q ≠ p) :
    Rows.loadDocument t' q = Rows.loadDocument t q := by
  rw [Rows.loadDocument_eq_build, Rows.loadDocument_eq_build, h.document q hne, h.listed hne]

/-! ## §3. What a change does to names. -/

end Tables

/-- A change of the alias `m` of the document `q`. -/
inductive Request.Changes (q m : String) : Request → Prop where
  | create : Changes q m (.createAlias q m)
  | delete : Changes q m (.deleteAlias q m)
  | promote : Changes q m (.promoteAlias q m)

namespace Tables

variable {t t' : Tables} {p q n m : String} {fresh : Fresh} {d : Document}

/-- The claim of an alias goes with it, and any other claim of the name stays. -/
theorem Released.name?_self (h : t.Released t' n)
    (hentries : t.names.Pairwise fun m m' => m.name ≠ m'.name) :
    t'.name? n = (t.name? n).filter (· != ⟨n, NameKind.aliasName.text⟩) := by
  have hentries' : t'.names.Pairwise fun m m' => m.name ≠ m'.name := by
    rw [h.names]
    exact hentries.filter _
  cases hentry : t.name? n with
  | none =>
    have hnone := find?_key_eq_none_iff.1 hentry
    refine find?_key_eq_none_iff.2 fun m hm => ?_
    rw [h.names] at hm
    exact hnone m (List.mem_filter.1 hm).1
  | some e =>
    obtain ⟨hmem, hname⟩ := (find?_key_eq_some_iff hentries).1 hentry
    by_cases hgone : e = ⟨n, NameKind.aliasName.text⟩
    · rw [Option.filter_some_neg (by simpa using hgone)]
      refine find?_key_eq_none_iff.2 fun m hm heq => ?_
      rw [h.names] at hm
      obtain ⟨hm, hkept⟩ := List.mem_filter.1 hm
      have hsame : m = e := eq_of_key_eq hentries hm hmem (heq.trans hname.symm)
      rw [hsame, hgone] at hkept
      exact absurd rfl (bne_iff_ne.1 hkept)
    · rw [Option.filter_some_pos (by simpa using hgone)]
      refine (find?_key_eq_some_iff hentries').2 ⟨?_, hname⟩
      rw [h.names]
      exact List.mem_filter.2 ⟨hmem, bne_iff_ne.2 hgone⟩

theorem name?_createAlias (hrun : (Work.createAlias fresh p n).runOn t = (.ok d, t')) :
    t'.name? n = some ⟨n, NameKind.aliasName.text⟩ := by
  obtain ⟨-, hfree, position, -, version, -, -, -, -, rfl, -⟩ := Work.createAlias_eq_ok_iff.1 hrun
  show (t.names ++ [_]).find? _ = _
  rw [List.find?_append, find?_key_eq_none_iff.2 hfree, Option.none_or]
  exact List.find?_cons_of_pos (beq_self_eq_true n)

theorem Regular.name?_deleteAlias (h : t.Regular)
    (hrun : (Work.deleteAlias fresh p n).runOn t = (.ok d, t')) :
    t'.name? n = (t.name? n).filter (· != ⟨n, NameKind.aliasName.text⟩) := by
  obtain ⟨a, row, hrow, -, -, hreleased⟩ := Work.deleteAlias_addresses h.toUnique hrun
  exact (hreleased (h.id_eq hrow)).1.name?_self h.entries

/-- A change gives the document whose alias it is about. -/
theorem publicId_of_changes {r : Request} {w : Work Document} (hr : r.Changes q m)
    (hwork : r.work? fresh = some w) (hrun : w.runOn t = (.ok d, t')) : d.publicId = q := by
  have htarget := (Request.loads_of_granted hwork hrun).1
  cases hr <;> exact (Option.some.inj htarget).symm

/-- A change of an alias spares all other documents and all other names. -/
theorem Canonical.spares_of_changes {r : Request} {w : Work Document} (h : t.Canonical)
    (hr : r.Changes q m) (hwork : r.work? fresh = some w) (hrun : w.runOn t = (.ok d, t')) :
    t.Spares t' q [m] := by
  have hspared := h.spares hwork hrun
  rw [publicId_of_changes hr hwork hrun] at hspared
  cases hr with
  | create => exact hspared
  | delete => exact hspared
  | promote =>
    exact ⟨hspared.document, hspared.aliases, fun k _ => hspared.claims k List.not_mem_nil⟩

/-- New rows have the new id. -/
theorem ids_of_changes {r : Request} {w : Work Document} (hr : r.Changes q m)
    (hwork : r.work? fresh = some w) (hrun : w.runOn t = (.ok d, t')) :
    ∀ a ∈ t'.aliases, (∃ b ∈ t.aliases, b.id = a.id) ∨ a.id = fresh.id.render := by
  intro a ha
  cases hr with
  | create =>
    cases hwork
    obtain ⟨-, -, position, -, version, -, -, -, -, rfl, -⟩ := Work.createAlias_eq_ok_iff.1 hrun
    rcases List.mem_append.1 ha with ha | ha
    · exact Or.inl ⟨a, ha, rfl⟩
    · rw [List.mem_singleton.1 ha]
      exact Or.inr rfl
  | delete =>
    cases hwork
    obtain ⟨-, b, -, version, -, -, -, -, rfl, -⟩ := Work.deleteAlias_eq_ok_iff.1 hrun
    exact Or.inl ⟨a, (List.mem_filter.1 ha).1, rfl⟩
  | promote =>
    cases hwork
    obtain ⟨-, b, -, -, hcase⟩ := Work.promoteAlias_eq_ok_iff.1 hrun
    rcases hcase with ⟨-, rfl⟩ | ⟨-, -, version, -, -, -, rfl⟩
    · exact Or.inl ⟨a, ha, rfl⟩
    · have hmem : a ∈ (t.flagMoved q b.id).aliases := ha
      rw [flagMoved_aliases] at hmem
      obtain ⟨e, he, rfl⟩ := List.mem_map.1 hmem
      exact Or.inl ⟨e, he, (promotedRow_id q b.id.render e).symm⟩

/-- A document whose aliases change is stored. -/
theorem hasDocument_of_changes {r : Request} {w : Work Document} (hr : r.Changes q m)
    (hwork : r.work? fresh = some w) (hrun : w.runOn t = (.ok d, t')) : t.hasDocument q = true := by
  cases hr with
  | create => cases hwork; exact (Work.createAlias_eq_ok_iff.1 hrun).1
  | delete => cases hwork; exact (Work.deleteAlias_eq_ok_iff.1 hrun).1
  | promote => cases hwork; exact (Work.promoteAlias_eq_ok_iff.1 hrun).1

/-- The schema is never changed. -/
theorem onePrimary_granted {r : Request} {w : Work Document} (hwork : r.work? fresh = some w)
    (hrun : w.runOn t = (.ok d, t')) : t'.onePrimary = t.onePrimary := by
  refine kept_of_granted (P := fun s => s.onePrimary = t.onePrimary) (fun s s' hform hs => ?_) rfl hwork
    hrun
  cases hform <;> exact hs

/-- **A change of one alias leaves the others alone**, but for the flag that a promotion takes from
them. -/
theorem Canonical.alias?_granted {r : Request} {w : Work Document} (h : t.Canonical)
    (hr : r.Changes q m) (hwork : r.work? fresh = some w) (hrun : w.runOn t = (.ok d, t'))
    (hne : n ≠ m) :
    t'.alias? n = t.alias? n ∨ r = .promoteAlias q m ∧ ∃ a, t.alias? n = some a ∧ a.document = q ∧
      a.flag = 1 ∧ t'.alias? n = some { a with flag := 0 } := by
  cases hr with
  | create =>
    cases hwork
    obtain ⟨-, -, position, -, version, -, -, -, -, rfl, -⟩ := Work.createAlias_eq_ok_iff.1 hrun
    refine Or.inl ?_
    have hnew : [t.newAlias fresh q m position].find? (·.name == n) = none :=
      find?_key_eq_none_iff.2 fun a ha => by rw [List.mem_singleton.1 ha]; exact hne.symm
    show (t.aliases ++ [_]).find? _ = _
    rw [List.find?_append, hnew, Option.or_none]
    rfl
  | delete =>
    cases hwork
    obtain ⟨a, row, hrow, -, -, hreleased⟩ := Work.deleteAlias_addresses h.toUnique hrun
    refine Or.inl ?_
    unfold alias?
    rw [(hreleased (h.id_eq hrow)).1.aliases, List.find?_filter]
    congr 1
    funext a
    by_cases hn : a.name = n
    · have hm : a.name ≠ m := fun hm => hne (hn.symm.trans hm)
      simp [hn, hne]
    · simp [hn]
  | promote =>
    cases hwork
    obtain ⟨-, a, howned, -, hcase⟩ := Work.promoteAlias_eq_ok_iff.1 hrun
    rcases hcase with ⟨-, rfl⟩ | ⟨-, -, version, -, -, -, rfl⟩
    · exact Or.inl rfl
    · obtain ⟨row, hrow⟩ := Rows.owned_of_ok howned
      rw [alias?_touched]
      cases hfound : t.alias? n with
      | none =>
        refine Or.inl (find?_key_eq_none_iff.2 fun b hb => ?_)
        rw [flagMoved_aliases] at hb
        obtain ⟨c, hc, rfl⟩ := List.mem_map.1 hb
        rw [promotedRow_name]
        exact find?_key_eq_none_iff.1 hfound c hc
      | some b =>
        obtain ⟨hmem, hname⟩ := mem_of_alias? hfound
        rw [h.alias?_flagMoved q a.id hfound, ← h.id_eq hrow]
        have hid : b.id ≠ row.id := fun hid => hne (hname.symm.trans
          (((h.id_eq_iff hmem hrow.mem).1 hid).trans hrow.name))
        unfold promotedRow
        rw [if_neg hid]
        by_cases hset : b.document = q ∧ b.flag = 1
        · rw [if_pos hset]
          exact Or.inr ⟨rfl, b, rfl, hset.1, hset.2, rfl⟩
        · rw [if_neg hset]
          exact Or.inl rfl

/-- The flag can be moved to every alias of the document. -/
theorem Canonical.promote_owned {a : Alias} (h : t.Canonical)
    (howned : Rows.ownedAlias t p n = .ok a) :
    Rows.promote a.id (Rows.demoteAll p t) = .ok (t.flagMoved p a.id) := by
  obtain ⟨row, hrow⟩ := Rows.owned_of_ok howned
  exact Rows.promote_eq_ok_iff.2 (setFlag_demoteAll h.ids hrow.mem hrow.owner (h.id_eq hrow))

end Tables

/-! ## §4. Changes of tables that agree. -/

namespace Work

open Tables

variable {F : Fresh → Fresh → Prop} {f f' : Fresh} {t t' : Tables} {p n : String}

/-- **A change goes the same way on both tables**, and leaves the document and the claim of the name
alike. -/
def SettlesOn (F : Fresh → Fresh → Prop) (p n : String) (t t' : Tables) (d : Document) (s : Tables)
    (d' : Document) (s' : Tables) : Prop :=
  Settles Renaming.refl F p t t' d s d' s' ∧ s'.name? n = s.name? n

/-- Owners that are told the same. -/
theorem paired_owned (h : Rows.ownedAlias t' p n = Rows.ownedAlias t p n) :
    Namebook.Paired Renaming.refl.Errs (fun a a' => a' = Renaming.refl.onAlias a)
      (Rows.ownedAlias t p n) (Rows.ownedAlias t' p n) :=
  paired_of_eq h.symm (fun e => (Renaming.refl_onError e).symm) fun a => (Renaming.refl_onAlias a).symm

theorem createAlias_local (h : t.Agrees p t') (hregular : t.Regular) (hF : F f f')
    (hclaim : t'.name? n = t.name? n) (htaken : (t'.alias? n).isSome = (t.alias? n).isSome)
    (hids : ∀ a ∈ t.aliases, a.id ≠ f.id.render) (hids' : ∀ a ∈ t'.aliases, a.id ≠ f'.id.render) :
    Work.Paired Renaming.refl.Errs (SettlesOn F p n t t') (createAlias f p n) t
      (createAlias f' p n) t' := by
  have hsame : Rows.nameClaim t' n = Rows.nameClaim t n := by
    unfold Rows.nameClaim
    rw [hclaim]
  have hpaired := paired_createAlias (h.mirrors (hregular.distinct p)) hF hsame htaken
    ((any_key_eq_false_iff.2 hids').trans (any_key_eq_false_iff.2 hids).symm)
  refine hpaired.told.mono fun d s d' s' hs => ⟨hs.1, ?_⟩
  exact (name?_createAlias hs.2.2).trans (name?_createAlias hs.2.1).symm

theorem deleteAlias_local (h : t.Agrees p t') (hregular : t.Regular) (hregular' : t'.Regular)
    (hF : F f f') (hclaim : t'.name? n = t.name? n)
    (howned : Rows.ownedAlias t' p n = Rows.ownedAlias t p n) :
    Work.Paired Renaming.refl.Errs (SettlesOn F p n t t') (deleteAlias f p n) t
      (deleteAlias f' p n) t' := by
  have hpaired := paired_deleteAlias (h.mirrors (hregular.distinct p)) hF (paired_owned howned)
  refine hpaired.told.mono fun d s d' s' hs => ⟨hs.1, ?_⟩
  have hreleased' : s'.name? n = _ := hregular'.name?_deleteAlias hs.2.2
  rw [hreleased', hregular.name?_deleteAlias hs.2.1, hclaim]

theorem promoteAlias_local (h : t.Agrees p t') (hregular : t.Regular) (hregular' : t'.Regular)
    (hF : F f f') (hclaim : t'.name? n = t.name? n)
    (howned : Rows.ownedAlias t' p n = Rows.ownedAlias t p n) :
    Work.Paired Renaming.refl.Errs (SettlesOn F p n t t') (promoteAlias f p n) t
      (promoteAlias f' p n) t' := by
  have hpaired := paired_promoteAlias (h.mirrors (hregular.distinct p)) hF (paired_owned howned)
    fun a ha => by
      rw [hregular.promote_owned ha, hregular'.promote_owned (howned.trans ha)]
      exact trivial
  refine hpaired.told.mono fun d s d' s' hs => ⟨hs.1, ?_⟩
  have hspared := hregular.spares (r := .promoteAlias p n) rfl hs.2.1
  have hspared' := hregular'.spares (r := .promoteAlias p n) rfl hs.2.2
  rw [hspared'.claims n List.not_mem_nil, hspared.claims n List.not_mem_nil, hclaim]

end Work

end Namebook
