/-
  Namebook.Proofs.Repository.Addressing
  ─────────────────────────────────────
  **FOUND BY NAME, WRITTEN BY ID.**

  A removal or a promotion finds a row by the name of the alias and then writes the row whose stored id
  is the canonical text of the id that was read.  Where the stored id is spelled so, this is the row
  that was found; where it is not, it is another row or none:

    • `Rows.owned_of_ok` — the row that is found;
    • `Unique.withoutAliases_id`, `Unique.promotedRow_of_ne` — what the written id selects;
    • `Work.deleteAlias_addresses`, `Work.promoteAlias_addresses` — granted changes, row by row.
-/
import Namebook.Proofs.Repository.Faithful
import Namebook.Proofs.Repository.Damage

namespace Namebook

/-! ## §1. The row that is found. -/

/-- **The row of an alias that a document owns**, and what was read from it. -/
structure Rows.Owned (t : Tables) (p n : String) (a : Alias) (row : AliasRow) : Prop where
  found : t.alias? n = some row
  owner : row.document = p
  id : Uuid.parse? row.id = some a.id
  flag : row.flag = if a.primary then 1 else 0

namespace Rows.Owned

variable {t : Tables} {p n : String} {a : Alias} {row : AliasRow}

theorem mem (h : Owned t p n a row) : row ∈ t.aliases :=
  (Tables.mem_of_alias? h.found).1

theorem name (h : Owned t p n a row) : row.name = n :=
  (Tables.mem_of_alias? h.found).2

theorem mem_aliasesOf (h : Owned t p n a row) : row ∈ t.aliasesOf p :=
  Tables.mem_aliasesOf.2 ⟨h.mem, h.owner⟩

theorem flag_iff (h : Owned t p n a row) : row.flag = 1 ↔ a.primary = true := by
  rw [h.flag]
  cases a.primary
  · exact iff_of_false (by decide) Bool.false_ne_true
  · exact iff_of_true rfl rfl

/-- A row in canonical spelling is the one that is written. -/
theorem id_of_canonical (h : Owned t p n a row) {u : Uuid} (hu : row.id = u.render) :
    row.id = a.id.render := by
  have hparse := h.id
  rw [hu, Uuid.parse?_render] at hparse
  rw [hu, Option.some.inj hparse]

end Rows.Owned

/-- The alias that is found has a row of its own. -/
theorem Rows.owned_of_ok {t : Tables} {p n : String} {a : Alias} (h : Rows.ownedAlias t p n = .ok a) :
    ∃ row, Rows.Owned t p n a row := by
  unfold Rows.ownedAlias Rows.findAlias at h
  cases hrow : t.alias? n with
  | none => rw [hrow] at h; cases h
  | some row =>
    rw [hrow] at h
    dsimp only at h
    cases hdecode : Rows.decodeAlias row with
    | error e => rw [hdecode] at h; cases h
    | ok b =>
      rw [hdecode] at h
      change (if b.document = p then Except.ok b else Except.error _) = Except.ok a at h
      split at h
      next howner =>
        cases h
        have hread := Rows.decodeAlias_eq_ok_iff.1 hdecode
        simp only [Prod.mk.injEq] at hread
        obtain ⟨hid, -, hdoc, hflag⟩ := hread
        exact ⟨row, hrow, hdoc.trans howner, hid, hflag⟩
      next => cases h

/-! ## §2. The row that is written. -/

namespace Tables

variable {t t' : Tables} {p n : String} {row : AliasRow}

/-- Counting a change touches no alias. -/
@[simp] theorem alias?_touched (t : Tables) (p : String) (now version : Int64) (n : String) :
    (t.touched p now version).alias? n = t.alias? n := rfl

@[simp] theorem aliasesOf_touched (t : Tables) (p : String) (now version : Int64) (q : String) :
    (t.touched p now version).aliasesOf q = t.aliasesOf q := rfl

/-- **An alias is gone**, its claim with it, and nothing else. -/
structure Released (t t' : Tables) (n : String) : Prop where
  aliases : t'.aliases = t.aliases.filter (·.name != n)
  names : t'.names = t.names.filter (· != ⟨n, NameKind.aliasName.text⟩)

theorem Released.alias? (h : t.Released t' n) : t'.alias? n = none := by
  refine find?_key_eq_none_iff.2 fun a ha => ?_
  rw [h.aliases] at ha
  exact bne_iff_ne.1 (List.mem_filter.1 ha).2

/-- Where the index is in step, the name is free again. -/
theorem Released.unclaimed (h : t.Released t' n) (hclaims : t.Claims) (hrow : row ∈ t.aliases)
    (hname : row.name = n) : ∀ m ∈ t'.names, m.name ≠ n := by
  intro m hm heq
  rw [h.names] at hm
  obtain ⟨hmem, hne⟩ := List.mem_filter.1 hm
  have hentry : aliasEntry row ∈ t.names := hclaims.mem_names_iff.2 (Or.inr ⟨row, hrow, rfl⟩)
  have hsame : m = aliasEntry row := eq_of_key_eq hclaims.distinct hmem hentry (heq.trans hname.symm)
  rw [hsame, ← hname] at hne
  exact absurd rfl (bne_iff_ne.1 hne)

namespace Unique

/-- Among stored rows the id tells as much as the name. -/
theorem id_eq_iff (h : t.Unique) {a : AliasRow} (ha : a ∈ t.aliases) (hrow : row ∈ t.aliases) :
    a.id = row.id ↔ a.name = row.name := by
  constructor
  · intro hid
    rw [eq_of_key_eq h.ids ha hrow hid]
  · intro hname
    rw [eq_of_key_eq h.names ha hrow hname]

/-- **Removing a row by the id that it has** removes the alias of its name. -/
theorem released (h : t.Unique) (hrow : row ∈ t.aliases) :
    t.Released (t.withoutAliases (·.id == row.id)) row.name where
  aliases := by
    refine List.filter_congr fun a ha => ?_
    rw [Bool.eq_iff_iff, Bool.not_eq_true', beq_eq_false_iff_ne, bne_iff_ne, ne_eq, ne_eq,
      h.id_eq_iff ha hrow]
  names := by
    refine List.filter_congr fun m _ => ?_
    have hany : ((t.aliases.filter (·.id == row.id)).any fun a => aliasEntry a == m) = true ↔
        m = aliasEntry row := by
      rw [List.any_eq_true]
      constructor
      · rintro ⟨a, ha, hentry⟩
        obtain ⟨hmem, hid⟩ := List.mem_filter.1 ha
        rw [eq_of_key_eq h.ids hmem hrow (beq_iff_eq.1 hid)] at hentry
        exact (beq_iff_eq.1 hentry).symm
      · rintro rfl
        exact ⟨row, List.mem_filter.2 ⟨hrow, beq_self_eq_true _⟩, beq_self_eq_true _⟩
    rw [Bool.eq_iff_iff, Bool.not_eq_true', Bool.eq_false_iff, ne_eq, hany]
    exact bne_iff_ne.symm

/-- Removing by another id leaves a row where it is. -/
theorem alias?_withoutAliases (h : t.Unique) {id : String} (hfound : t.alias? n = some row)
    (hne : row.id ≠ id) : (t.withoutAliases (·.id == id)).alias? n = some row := by
  obtain ⟨hmem, hname⟩ := mem_of_alias? hfound
  have hleft : (t.withoutAliases (·.id == id)).Unique := h.withoutAliases
  refine (find?_key_eq_some_iff hleft.names).2 ⟨?_, hname⟩
  exact List.mem_filter.2 ⟨hmem, by simpa using hne⟩

/-- **Moving the primary flag to the row with an id** leaves alone every row of another document than
that row's. -/
theorem promotedRow_of_ne (h : t.Unique) {a : AliasRow} (hrow : row ∈ t.aliasesOf p)
    (ha : a ∈ t.aliases) (hne : a.document ≠ p) : promotedRow p row.id a = a := by
  obtain ⟨hmem, hdoc⟩ := mem_aliasesOf.1 hrow
  have hid : a.id ≠ row.id := fun hid => hne ((eq_of_key_eq h.ids ha hmem hid) ▸ hdoc)
  unfold promotedRow
  rw [if_neg hid, if_neg fun hset => hne hset.1]

/-- A row keeps its name when a flag is moved. -/
theorem alias?_flagMoved (h : t.Unique) (p : String) (u : Uuid) (hfound : t.alias? n = some row) :
    (t.flagMoved p u).alias? n = some (promotedRow p u.render row) := by
  obtain ⟨hmem, hname⟩ := mem_of_alias? hfound
  refine (find?_key_eq_some_iff (h.flagMoved p u).names).2 ⟨?_, ?_⟩
  · rw [flagMoved_aliases]
    exact List.mem_map_of_mem hmem
  · rw [promotedRow_name, hname]

end Unique

/-- Moving the flag to the row with an id leaves alone the aliases of other documents. -/
theorem aliasesOf_flagMoved_of_ne {u : Uuid} {q : String}
    (h : ∀ a ∈ t.aliases, a.document ≠ p → promotedRow p u.render a = a) (hne : q ≠ p) :
    (t.flagMoved p u).aliasesOf q = t.aliasesOf q := by
  rw [aliasesOf_flagMoved]
  refine (List.map_congr_left fun a ha => ?_).trans (List.map_id _)
  obtain ⟨hmem, hdoc⟩ := mem_aliasesOf.1 ha
  exact h a hmem fun hp => hne (hdoc.symm.trans hp)

/-! ## §3. Loaded documents. -/

/-- Of rows of which one is primary, two that are primary are the same. -/
theorem eq_of_countP_eq_one {α : Type} {test : α → Bool} {l : List α} {a b : α}
    (h : l.countP test = 1) (ha : a ∈ l) (hb : b ∈ l) (hta : test a = true) (htb : test b = true) :
    a = b := by
  rw [List.countP_eq_length_filter, List.length_eq_one_iff] at h
  obtain ⟨x, hx⟩ := h
  have hmem : ∀ c ∈ l, test c = true → c = x := by
    intro c hc htc
    have hcx : c ∈ l.filter test := List.mem_filter.2 ⟨hc, htc⟩
    rw [hx] at hcx
    exact List.mem_singleton.1 hcx
  rw [hmem a ha hta, hmem b hb htb]

/-- A loaded document has an alias for each of its rows. -/
theorem length_of_loaded {d : Document} (h : Rows.loadRequired t p = .ok d) :
    d.aliases.length = (t.aliasesOf p).length := by
  have hload := loadRequired_eq_ok_iff_loadDocument.1 h
  obtain ⟨row, -, hassemble, -⟩ := loadDocument_eq_some_iff.1 hload
  obtain ⟨hrows, rfl⟩ := Rows.assemble_eq_ok_iff.1 hassemble
  have hlength := congrArg List.length (Rows.mapM_decodeAlias_eq_ok_iff.1 hrows)
  rw [List.length_map, List.length_map, (perm_sortRows _).length_eq] at hlength
  rw [← publicId_of_loadDocument hload]
  exact hlength.symm

/-- **The primary alias of a loaded document is the one whose row has the flag.** -/
theorem Unique.primaryAlias?_iff {d : Document} (h : t.Unique) (hload : Rows.loadRequired t p = .ok d)
    (hfound : t.alias? n = some row) (howner : row.document = p) :
    d.primaryAlias?.map (·.name) = some n ↔ row.flag = 1 := by
  obtain ⟨hmem, hname⟩ := mem_of_alias? hfound
  have hrow : row ∈ t.aliasesOf p := mem_aliasesOf.2 ⟨hmem, howner⟩
  have hwhole := whole_of_loadRequired hload
  have hfind := loadRequired_eq_ok_iff_loadDocument.1 hload
  obtain ⟨drow, -, hassemble, -⟩ := loadDocument_eq_some_iff.1 hfind
  obtain ⟨hrows, rfl⟩ := Rows.assemble_eq_ok_iff.1 hassemble
  cases publicId_of_loadDocument hfind
  have hread := Rows.mapM_decodeAlias_eq_ok_iff.1 hrows
  have hperm := perm_sortRows (t.aliasesOf d.publicId)
  -- the primary alias of the document is the alias of a row with the flag
  have hback : ∀ a ∈ d.aliases, a.primary = true →
      ∃ r ∈ t.aliasesOf d.publicId, r.name = a.name ∧ r.flag = 1 := by
    intro a ha hprimary
    have himage := List.mem_map_of_mem
      (f := fun a : Alias => (some a.id, a.name, a.document, if a.primary then (1 : Int64) else 0)) ha
    rw [← hread] at himage
    obtain ⟨r, hr, heq⟩ := List.mem_map.1 himage
    simp only [Prod.mk.injEq, hprimary, if_true] at heq
    exact ⟨r, hperm.mem_iff.1 hr, heq.2.1, heq.2.2.2⟩
  constructor
  · intro hprimary
    obtain ⟨a, hfirst, haname⟩ := Option.map_eq_some_iff.1 hprimary
    obtain ⟨r, hr, hrname, hrflag⟩ :=
      hback a (List.mem_of_find?_eq_some hfirst) (List.find?_some hfirst)
    have hsame : r = row := eq_of_key_eq h.names (mem_aliasesOf.1 hr).1 hmem
      (hrname.trans (haname.trans hname.symm))
    rw [← hsame, hrflag]
  · intro hflag
    have himage := List.mem_map_of_mem
      (f := fun r : AliasRow => (Uuid.parse? r.id, r.name, r.document, r.flag))
      (hperm.mem_iff.2 hrow)
    rw [hread] at himage
    obtain ⟨a, ha, heq⟩ := List.mem_map.1 himage
    simp only [Prod.mk.injEq, hflag] at heq
    have hprimary : a.primary = true := by
      cases hp : a.primary with
      | true => rfl
      | false =>
        rw [hp] at heq
        exact absurd heq.2.2.2 (by decide)
    -- there is a first primary alias, and only one row has the flag
    cases hfirst : d.primaryAlias? with
    | none => exact absurd hprimary (List.find?_eq_none.1 hfirst a ha)
    | some b =>
      obtain ⟨r, hr, hrname, hrflag⟩ :=
        hback b (List.mem_of_find?_eq_some hfirst) (List.find?_some hfirst)
      have hone := hwhole.primary.resolve_left (List.ne_nil_of_mem hrow)
      have hsame : r = row := eq_of_countP_eq_one hone hr hrow (beq_iff_eq.2 hrflag)
        (beq_iff_eq.2 hflag)
      rw [Option.map_some, ← hrname, hsame, hname]

end Tables

/-! ## §4. Granted changes. -/

namespace Work

open Tables

variable {fresh : Fresh} {t t' : Tables} {p n : String} {d : Document}

/-- **A granted removal** deletes the rows whose stored id is the canonical text of the id that was
read.  The alias is gone exactly if its own row has that text, and then nothing else is. -/
theorem deleteAlias_addresses (h : t.Unique) (hrun : (deleteAlias fresh p n).runOn t = (.ok d, t')) :
    ∃ a row, Rows.Owned t p n a row ∧ t'.aliases = t.aliases.filter (·.id != a.id.render) ∧
      (t'.alias? n = none ↔ row.id = a.id.render) ∧
      (row.id = a.id.render →
        t.Released t' n ∧ d.aliases.length + 1 = (t.aliasesOf p).length) := by
  obtain ⟨-, a, -, version, howned, -, -, -, rfl, hload⟩ := deleteAlias_eq_ok_iff.1 hrun
  obtain ⟨row, hrow⟩ := Rows.owned_of_ok howned
  have hreleased : row.id = a.id.render → t.Released (t.aliasRemoved fresh p a.id version) n := by
    intro hid
    have hgone := h.released hrow.mem
    rw [hid, hrow.name] at hgone
    exact ⟨hgone.aliases, hgone.names⟩
  refine ⟨a, row, hrow, rfl, ⟨fun hnone => ?_, fun hid => (hreleased hid).alias?⟩, fun hid =>
    ⟨hreleased hid, ?_⟩⟩
  · by_contra hne
    have hkept := h.alias?_withoutAliases hrow.found hne
    cases hkept.symm.trans hnone
  · -- the document has lost the row that was found, and no other
    have hrest : (t.aliasRemoved fresh p a.id version).aliasesOf p
        = (t.aliasesOf p).filter (·.name != n) := by
      unfold aliasesOf
      rw [(hreleased hid).aliases, List.filter_filter, List.filter_filter]
      exact List.filter_congr fun _ _ => Bool.and_comm _ _
    have hone : (t.aliasesOf p).countP (·.name == n) = 1 := by
      have hle : (t.aliasesOf p).countP (·.name == n) ≤ 1 := by
        refine countP_le_one ((h.names.filter _).imp fun hne hsame => ?_)
        rw [beq_eq_false_iff_ne, ← beq_iff_eq.1 hsame]
        exact hne.symm
      have hpos : 0 < (t.aliasesOf p).countP (·.name == n) :=
        List.countP_pos_iff.2 ⟨row, hrow.mem_aliasesOf, beq_iff_eq.2 hrow.name⟩
      omega
    have hsplit := List.length_eq_countP_add_countP (l := t.aliasesOf p) (·.name == n)
    have hother : (t.aliasesOf p).countP (fun b => decide ¬(b.name == n) = true)
        = ((t.aliasesOf p).filter (·.name != n)).length := by
      rw [List.countP_eq_length_filter]
      congr 1
      refine List.filter_congr fun b _ => ?_
      by_cases hb : b.name = n <;> simp [hb]
    rw [length_of_loaded hload, hrest, ← hother]
    omega

/-- **A granted promotion** makes primary the row whose stored id is the canonical text of the id that
was read.  This is the alias that was named exactly if its own row has that text, or if it was primary
before and nothing was written; the aliases of other documents are never touched. -/
theorem promoteAlias_addresses (h : t.Unique)
    (hrun : (promoteAlias fresh p n).runOn t = (.ok d, t')) :
    ∃ a row, Rows.Owned t p n a row ∧
      ((∃ after, t'.alias? n = some after ∧ after.flag = 1) ↔ row.flag = 1 ∨ row.id = a.id.render) ∧
      (d.primaryAlias?.map (·.name) = some n ↔ row.flag = 1 ∨ row.id = a.id.render) ∧
      ∀ q, q ≠ p → t'.aliasesOf q = t.aliasesOf q := by
  obtain ⟨-, a, howned, hload, hcase⟩ := promoteAlias_eq_ok_iff.1 hrun
  obtain ⟨row, hrow⟩ := Rows.owned_of_ok howned
  -- the row of the alias afterwards, and whether it has the flag
  obtain ⟨after, hafter, howner, hflag⟩ : ∃ after, t'.alias? n = some after ∧ after.document = p ∧
      (after.flag = 1 ↔ row.flag = 1 ∨ row.id = a.id.render) := by
    rcases hcase with ⟨hprimary, rfl⟩ | ⟨hprimary, -, version, -, -, -, rfl⟩
    · have hset := hrow.flag_iff.2 hprimary
      exact ⟨row, hrow.found, hrow.owner, iff_of_true hset (Or.inl hset)⟩
    · have hclear : row.flag ≠ 1 := by
        rw [ne_eq, hrow.flag_iff, hprimary]
        exact Bool.false_ne_true
      have hmoved := h.alias?_flagMoved p a.id hrow.found
      rw [← alias?_touched _ p fresh.now version] at hmoved
      refine ⟨_, hmoved, ?_, ?_⟩
      · rw [promotedRow_document, hrow.owner]
      · rw [promotedRow_flag _ hrow.owner, if_neg hclear]
        by_cases hid : row.id = a.id.render
        · rw [if_pos hid]
          exact iff_of_true rfl (Or.inr hid)
        · rw [if_neg hid]
          exact iff_of_false hclear (not_or.2 ⟨hclear, hid⟩)
  have hunique : t'.Unique := h.granted (r := .promoteAlias p n) rfl hrun
  refine ⟨a, row, hrow, ⟨?_, fun hset => ⟨after, hafter, hflag.2 hset⟩⟩, ?_, ?_⟩
  · rintro ⟨b, hb, hset⟩
    cases hafter.symm.trans hb
    exact hflag.1 hset
  · rw [hunique.primaryAlias?_iff hload hafter howner, hflag]
  · intro q hne
    rcases hcase with ⟨-, rfl⟩ | ⟨-, -, version, -, -, -, rfl⟩
    · rfl
    · -- the document is without fault afterwards, so the written id is that of one of its rows
      have hwhole := whole_touched_iff.1 (whole_of_loadRequired hload)
      have hmends := (whole_flagMoved_iff t p a.id).1 hwhole
      obtain ⟨target, htarget, hid⟩ := hmends.exists_target (List.ne_nil_of_mem hrow.mem_aliasesOf)
      rw [aliasesOf_touched]
      refine aliasesOf_flagMoved_of_ne (fun b hb hdoc => ?_) hne
      rw [← hid]
      exact h.promotedRow_of_ne htarget hb hdoc

end Work

/-- A request that returns a document was granted, and its work has left what is committed. -/
theorem Request.runOn_of_answer {db db' : Database} {c : Connection} {fresh : Fresh} {r : Request}
    {a : r.Answer} {w : Work Document} {d : Document} (hwork : r.work? fresh = some w)
    (hanswer : db.answer c fresh r = (a, db')) (hd : r.document? a = some d) :
    w.runOn db.committed = (.ok d, db'.committed) := by
  have hcases : (r.document? (db.answer c fresh r).1 = none ∧ (db.answer c fresh r).2 = db) ∨ _ :=
    document?_of_work hwork
  rw [hanswer] at hcases
  rcases hcases with ⟨hnone, -⟩ | ⟨e, t, hsome, hrun, hafter⟩
  · cases hnone.symm.trans hd
  · cases hsome.symm.trans hd
    cases hafter
    exact hrun

end Namebook
