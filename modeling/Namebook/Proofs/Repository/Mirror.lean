/-
  Namebook.Proofs.Repository.Mirror
  ─────────────────────────────────
  **CHANGES LOOK AT ONE DOCUMENT AND ONE NAME.**

  Two stores show a document the same and know of a name the same, whatever else they hold.  Then a
  change of the document's aliases is refused by both with one error, or granted by both, and leaves
  the document alike in both.

    • `Mirrors.…` — what look-ups and statements make of stores that show a document the same;
    • `Work.paired_insert` — a row is inserted into both stores or into none;
    • `Work.paired_createAlias`, `paired_deleteAlias`, `paired_promoteAlias`.
-/
import Namebook.Proofs.Repository.Alike
import Namebook.Proofs.Repository.Frame

namespace Namebook

variable {ρ : Renaming} {F : Fresh → Fresh → Prop} {t t' : Tables} {p n : String}

/-- A fault names no alias that was asked for. -/
theorem Renaming.errs_of_fault {e : RepositoryError} (h : e.IsFault) : ρ.Errs e e := by
  cases e with
  | nameTaken _ => cases h
  | aliasNotFound _ _ => cases h
  | primaryNotSole _ _ _ => cases h
  | _ => exact rfl

/-- What only faults stop goes the same way on both sides. -/
theorem paired_of_blames {α : Type} {x y : Except RepositoryError α} (heq : y = x)
    (h : Blames RepositoryError.IsFault x) : Paired ρ.Errs (fun a b => b = a ∧ x = .ok a) x y := by
  subst heq
  cases y with
  | ok a => exact ⟨rfl, rfl⟩
  | error e => exact Renaming.errs_of_fault h

/-! ## §1. Looking at a document. -/

namespace Tables

theorem hasDocument_eq (t : Tables) (p : String) : t.hasDocument p = (t.document? p).isSome := by
  cases hrow : t.document? p with
  | none => exact hasDocument_of_none hrow
  | some row => exact hasDocument_of_document? hrow

theorem isSome_alias? (t : Tables) (n : String) :
    (t.alias? n).isSome = t.aliases.any (·.name == n) := by
  rw [Bool.eq_iff_iff, alias?, List.find?_isSome, List.any_eq_true]

theorem length_listed (t : Tables) (p : String) : (t.listed p).length = (t.aliasesOf p).length :=
  (perm_sortRows _).length_eq

/-- The greatest position is told by the positions, in whatever order they come. -/
theorem maxPosition?_congr {rows rows' : List AliasRow}
    (h : ∀ q, (∃ a ∈ rows', a.position = q) ↔ ∃ a ∈ rows, a.position = q) :
    Rows.maxPosition? rows' = Rows.maxPosition? rows := by
  cases hmax : Rows.maxPosition? rows with
  | none =>
    cases hmax' : Rows.maxPosition? rows' with
    | none => rfl
    | some q =>
      obtain ⟨a, ha, -⟩ := (h q).1 (mem_of_maxPosition hmax')
      obtain ⟨m, hm, -⟩ := le_maxPosition ha
      rw [hmax] at hm
      cases hm
  | some m =>
    -- each of the two is a position of the other rows, so none is greater
    obtain ⟨a, ha, hpos⟩ := (h m).2 (mem_of_maxPosition hmax)
    obtain ⟨m', hmax', hle⟩ := le_maxPosition ha
    obtain ⟨b, hb, hpos'⟩ := (h m').1 (mem_of_maxPosition hmax')
    obtain ⟨m'', hmax'', hge⟩ := le_maxPosition hb
    rw [hmax] at hmax''
    cases hmax''
    rw [hmax']
    congr 1
    rw [hpos] at hle
    rw [hpos'] at hge
    exact Int64.toInt_inj.1 (Int.le_antisymm hge hle)

namespace Mirrors

theorem hasDocument (h : t.Mirrors ρ p t') : t'.hasDocument p = t.hasDocument p := by
  rw [hasDocument_eq, hasDocument_eq, h.document]

theorem ensureDocument (h : t.Mirrors ρ p t') :
    Rows.ensureDocument t' p = Rows.ensureDocument t p := by
  unfold Rows.ensureDocument
  rw [h.hasDocument]

theorem length_aliasesOf (h : t.Mirrors ρ p t') :
    (t'.aliasesOf p).length = (t.aliasesOf p).length := by
  rw [← length_listed, h.listed, List.length_map, length_listed]

theorem isEmpty_aliasesOf (h : t.Mirrors ρ p t') :
    (t'.aliasesOf p).isEmpty = (t.aliasesOf p).isEmpty := by
  rw [← isEmpty_listed, h.listed, List.isEmpty_map, isEmpty_listed]

theorem nextPosition (h : t.Mirrors ρ p t') : Rows.nextPosition t' p = Rows.nextPosition t p := by
  have hpositions : ∀ q, (∃ a ∈ t'.aliasesOf p, a.position = q) ↔
      ∃ a ∈ t.aliasesOf p, a.position = q := by
    intro q
    have hmem : ∀ s : Tables, (∃ a ∈ s.aliasesOf p, a.position = q) ↔
        q ∈ (s.listed p).map (·.position) := by
      intro s
      rw [List.mem_map]
      exact exists_congr fun a => and_congr_left fun _ => mem_sortRows.symm
    have hmap : (t'.listed p).map (·.position) = (t.listed p).map (·.position) := by
      rw [h.listed, List.map_map]
      rfl
    rw [hmem, hmem, hmap]
  unfold Rows.nextPosition
  rw [maxPosition?_congr hpositions]

end Mirrors

end Tables

namespace Rows

/-- A row is decoded under its name. -/
theorem decodeAlias_onRow (ρ : Renaming) (a : AliasRow) :
    decodeAlias (ρ.onRow a) = (decodeAlias a).map ρ.onAlias := by
  unfold decodeAlias
  rw [Renaming.onRow_id, Renaming.onRow_flag]
  cases Uuid.parse? a.id with
  | none => rfl
  | some u =>
    dsimp only
    by_cases hzero : a.flag = 0
    · rw [if_pos hzero, if_pos hzero]
      rfl
    · rw [if_neg hzero, if_neg hzero]
      by_cases hone : a.flag = 1
      · rw [if_pos hone, if_pos hone]
        rfl
      · rw [if_neg hone, if_neg hone]
        rfl

/-- An alias is found by its row. -/
theorem paired_findAlias (h : t'.alias? (ρ n) = (t.alias? n).map ρ.onRow) :
    Paired ρ.Errs (fun a a' => a' = a.map ρ.onAlias) (findAlias t n) (findAlias t' (ρ n)) := by
  unfold findAlias
  rw [h]
  cases t.alias? n with
  | none => exact rfl
  | some a =>
    have hfault := decodeAlias_blames a
    show Paired ρ.Errs _ (some <$> decodeAlias a) (some <$> decodeAlias (ρ.onRow a))
    rw [decodeAlias_onRow]
    cases hdecode : decodeAlias a with
    | error e =>
      rw [hdecode] at hfault
      exact Renaming.errs_of_fault hfault
    | ok x => exact rfl

/-- Whether an alias that is found is the document's. -/
theorem paired_ownedAlias
    (h : Paired ρ.Errs (fun a a' => a' = a.map ρ.onAlias) (findAlias t n) (findAlias t' (ρ n)))
    (p : String) :
    Paired ρ.Errs (fun a a' => a' = ρ.onAlias a) (ownedAlias t p n) (ownedAlias t' p (ρ n)) := by
  unfold ownedAlias
  refine paired_bind h fun found found' hfound => ?_
  subst hfound
  cases found with
  | none => exact rfl
  | some a =>
    show Paired ρ.Errs _ (if a.document = p then _ else _)
      (if (ρ.onAlias a).document = p then _ else _)
    by_cases howner : a.document = p
    · rw [if_pos howner, if_pos (show (ρ.onAlias a).document = p from howner)]
      exact rfl
    · rw [if_neg howner, if_neg (show ¬(ρ.onAlias a).document = p from howner)]
      exact rfl

end Rows

namespace Tables

/-! ## §2. Statements. -/

/-- A new row comes last in both stores. -/
theorem Mirrors.withAlias {r r' : AliasRow} (h : t.Mirrors ρ p t') (hr : r.Alike ρ F r')
    (hdoc : r.document = p) (hlast : ∀ a ∈ t.aliasesOf p, a.position < r.position) :
    (t.withAlias r).Alike ρ F p (t'.withAlias r') where
  document := (h.alike (F := F)).document
  listed := by
    have hlast' : ∀ a ∈ t'.aliasesOf p, a.position < r'.position := by
      intro a ha
      have hmem : a ∈ t'.listed p := mem_sortRows.2 ha
      rw [h.listed] at hmem
      obtain ⟨b, hb, rfl⟩ := List.mem_map.1 hmem
      rw [hr.position]
      exact hlast b (mem_sortRows.1 hb)
    rw [listed_withAlias hdoc hlast, listed_withAlias (hr.document.trans hdoc) hlast']
    exact List.rel_append h.alike.listed (.cons hr .nil)
  fixed := h.fixed

theorem Mirrors.withoutAliases (h : t.Mirrors ρ p t') (u : Uuid) :
    (t.withoutAliases (·.id == u.render)).Mirrors ρ p (t'.withoutAliases (·.id == u.render)) where
  document := h.document
  listed := by
    rw [listed_withoutAliases, listed_withoutAliases, h.listed, List.filter_map]
    simp only [Function.comp_def, Renaming.onRow_id]
  fixed := h.fixed

/-- Moving a flag touches no document. -/
theorem document?_flagMoved (t : Tables) (p : String) (u : Uuid) (q : String) :
    (t.flagMoved p u).document? q = t.document? q := by
  have hdocuments : (t.flagMoved p u).documents = t.documents := rfl
  unfold document?
  rw [hdocuments]

/-- A flag is moved by the columns of a row, and its name is none of them. -/
theorem promotedRow_onRow (ρ : Renaming) (p s : String) (a : AliasRow) :
    promotedRow p s (ρ.onRow a) = ρ.onRow (promotedRow p s a) := by
  unfold promotedRow
  rw [Renaming.onRow_id, Renaming.onRow_document, Renaming.onRow_flag]
  by_cases hid : a.id = s
  · rw [if_pos hid, if_pos hid]
    rfl
  · rw [if_neg hid, if_neg hid]
    by_cases hset : a.document = p ∧ a.flag = 1
    · rw [if_pos hset, if_pos hset]
      rfl
    · rw [if_neg hset, if_neg hset]

theorem Mirrors.flagMoved (h : t.Mirrors ρ p t') (u : Uuid) :
    (t.flagMoved p u).Mirrors ρ p (t'.flagMoved p u) where
  document := by rw [document?_flagMoved, document?_flagMoved, h.document]
  listed := by
    rw [listed_flagMoved, listed_flagMoved, h.listed, List.map_map, List.map_map]
    generalize u.render = s
    exact List.map_congr_left fun a _ => promotedRow_onRow ρ p s a
  fixed := by
    rw [hasDocument_eq, document?_flagMoved, ← hasDocument_eq]
    exact h.fixed

theorem Alike.touched {f f' : Fresh} (h : t.Alike ρ F p t') (hF : F f f') (version : Int64) :
    (t.touched p f.now version).Alike ρ F p (t'.touched p f'.now version) where
  document := by
    rw [document?_touched_eq, document?_touched_eq]
    have hdocument := h.document
    generalize t.document? p = found, t'.document? p = found' at hdocument
    cases hdocument with
    | none => exact .none
    | @some d d' hd =>
      rw [Option.map_some, Option.map_some, if_pos rfl, if_pos rfl]
      exact .some ⟨hd.publicId, rfl, hd.createdAt, Or.inr ⟨f, f', hF, rfl, rfl⟩⟩
  listed := h.listed
  fixed := by
    intro hdoc
    refine h.fixed ?_
    rw [hasDocument_eq, document?_touched_eq, Option.isSome_map, ← hasDocument_eq] at hdoc
    exact hdoc

/-- Counting shows. -/
theorem touched_ne {row : DocumentRow} {now version : Int64} {s : Tables}
    (hrow : t.document? p = some row) (hsame : s.document? p = t.document? p)
    (hversion : version.toInt = row.version.toInt + 1) : s.touched p now version ≠ t := by
  intro heq
  have hcounted := document?_touched_eq s p now version p
  rw [heq, hsame, hrow, Option.map_some, if_pos rfl] at hcounted
  have hsame : row.version = version := congrArg DocumentRow.version (Option.some.inj hcounted)
  rw [← hsame] at hversion
  omega

end Tables

/-! ## §3. Granted by both, or refused by both. -/

namespace Work

open Tables

variable {f f' : Fresh}

/-- **Both stores show the document alike afterwards**, return it alike, and are changed or not. -/
def Settles (ρ : Renaming) (F : Fresh → Fresh → Prop) (p : String) (t t' : Tables)
    (d : Document) (s : Tables) (d' : Document) (s' : Tables) : Prop :=
  d.Alike ρ F d' ∧ s.Alike ρ F p s' ∧ (s = t ↔ s' = t')

/-- **Every change ends alike** on tables that show the document alike. -/
theorem paired_finish {s s' : Tables} (h : s.Alike ρ F p s') (hF : F f f')
    (hrow : s.document? p = t.document? p) (hrow' : s'.document? p = t'.document? p) :
    Work.Paired ρ.Errs (Settles ρ F p t t')
      (do change (Rows.touch p f.now)
          query (Rows.loadRequired · p) : Work Document) s
      (do change (Rows.touch p f'.now)
          query (Rows.loadRequired · p) : Work Document) s' := by
  have htouch : Namebook.Paired ρ.Errs
      (fun u u' => u.Alike ρ F p u' ∧ u ≠ t ∧ u' ≠ t')
      (Rows.touch p f.now s) (Rows.touch p f'.now s') := by
    have hdocument := h.document
    cases hfound : s.document? p with
    | none =>
      rw [hfound] at hdocument
      cases hfound' : s'.document? p with
      | some row' => rw [hfound'] at hdocument; cases hdocument
      | none =>
        unfold Rows.touch
        rw [hfound, hfound']
        exact rfl
    | some row =>
      rw [hfound] at hdocument
      cases hfound' : s'.document? p with
      | none => rw [hfound'] at hdocument; cases hdocument
      | some row' =>
        rw [hfound'] at hdocument
        cases hdocument with
        | some hd =>
          cases hnext : Integer.next? row.version with
          | none =>
            unfold Rows.touch
            rw [hfound, hfound']
            dsimp only
            rw [hd.version, hnext]
            exact rfl
          | some version =>
            have hversion := Integer.next?_eq_some_iff.1 hnext
            have hversion' : version.toInt = row'.version.toInt + 1 := by rw [hd.version, hversion]
            rw [touch_eq_ok_iff.2 ⟨row, version, hfound, hversion, rfl⟩,
              touch_eq_ok_iff.2 ⟨row', version, hfound', hversion', rfl⟩]
            exact ⟨h.touched hF version, touched_ne (hrow.symm.trans hfound) hrow hversion,
              touched_ne (hrow'.symm.trans hfound') hrow' hversion'⟩
  refine paired_change_bind htouch fun u u' hu => paired_query ?_
  exact hu.1.loadRequired.mono (fun _ _ he => he) fun d d' hd =>
    ⟨hd, hu.1, iff_of_false hu.2.1 hu.2.2⟩

/-- A refused insert is told of the name that was asked for. -/
theorem errs_claimError (n : String) (e : EngineError) :
    ρ.Errs (Rows.claimError n e) (Rows.claimError (ρ n) e) := by
  unfold Rows.claimError
  split
  · split
    · exact rfl
    · exact rfl
  · exact rfl

/-- **A row is inserted into both stores or into none**, if each check of the insert comes out the
same. -/
theorem paired_insert (t t' : Tables) (a a' : Alias) (position position' : Int64)
    (hname : a'.name = ρ a.name) (hprimary : a'.primary = a.primary)
    (hclash : (t'.onePrimary && (Rows.aliasRow a' position').flag == 1 &&
        t'.aliases.any fun b => b.document == a'.document && b.flag == 1)
      = (t.onePrimary && (Rows.aliasRow a position).flag == 1 &&
        t.aliases.any fun b => b.document == a.document && b.flag == 1))
    (htaken : t'.aliases.any (·.name == a'.name) = t.aliases.any (·.name == a.name))
    (hids : t'.aliases.any (·.id == a'.id.render) = t.aliases.any (·.id == a.id.render))
    (hclaimed : t'.names.any (·.name == a'.name) = t.names.any (·.name == a.name))
    (hstored : t'.hasDocument a'.document = t.hasDocument a.document) :
    Namebook.Paired ρ.Errs
      (fun s s' => s = t.withAlias (Rows.aliasRow a position) ∧
        s' = t'.withAlias (Rows.aliasRow a' position') ∧
        t.aliases.any (·.id == a.id.render) = false)
      (Rows.insertAlias a position t) (Rows.insertAlias a' position' t') := by
  have hflag : (Rows.aliasRow a' position').flag = (Rows.aliasRow a position).flag := by
    unfold Rows.aliasRow
    rw [hprimary]
  have herror : ∀ e, ρ.Errs (Rows.claimError a.name e) (Rows.claimError a'.name e) := by
    rw [hname]
    exact errs_claimError a.name
  show Namebook.Paired ρ.Errs _
    ((t.insertAlias Rules.all (Rows.aliasRow a position)).mapError (Rows.claimError a.name))
    ((t'.insertAlias Rules.all (Rows.aliasRow a' position')).mapError (Rows.claimError a'.name))
  rw [insertAlias_eq, insertAlias_eq]
  refine paired_mapError ?_
  refine paired_ite (by rw [hflag]) (herror _) fun _ => ?_
  refine paired_ite hclash (herror _) fun _ => ?_
  refine paired_ite htaken (herror _) fun _ => ?_
  refine paired_ite hids (herror _) fun hnew => ?_
  refine paired_ite hclaimed (herror _) fun _ => ?_
  exact paired_ite hstored ⟨rfl, rfl, hnew⟩ fun _ => herror _

/-- Only a first alias is inserted as primary, so it meets no other primary alias. -/
theorem clash_of_first {s : Tables} {a : Alias} {position : Int64} (hdoc : a.document = p)
    (hfirst : a.primary = true → s.aliasesOf p = []) :
    (s.onePrimary && (Rows.aliasRow a position).flag == 1 &&
      s.aliases.any fun b => b.document == a.document && b.flag == 1) = false := by
  cases hprimary : a.primary with
  | false =>
    have hzero : (Rows.aliasRow a position).flag = 0 := by
      unfold Rows.aliasRow
      rw [hprimary]
      rfl
    rw [hzero, show ((0 : Int64) == 1) = false from rfl, Bool.and_false, Bool.false_and]
  | true =>
    have hnone : s.aliases.any (fun b => b.document == a.document && b.flag == 1) = false := by
      refine List.any_eq_false.2 fun b hb hset => ?_
      rw [Bool.and_eq_true, beq_iff_eq, beq_iff_eq] at hset
      have hmem : b ∈ s.aliasesOf p := mem_aliasesOf.2 ⟨hb, hset.1.trans hdoc⟩
      rw [hfirst hprimary] at hmem
      cases hmem
    rw [hnone, Bool.and_false]

/-- **An alias of the document is inserted into both stores or into none.** -/
theorem paired_insertAlias {a a' : Alias} {position : Int64} (h : t.Mirrors ρ p t')
    (ha : (Rows.aliasRow a position).Alike ρ F (Rows.aliasRow a' position)) (hdoc : a.document = p)
    (hname : a'.name = ρ a.name) (hprimary : a'.primary = a.primary)
    (hlast : ∀ b ∈ t.aliasesOf p, b.position < position)
    (hfirst : a.primary = true → t.aliasesOf p = [])
    (hfree : ∀ m ∈ t.names, m.name ≠ a.name) (hfree' : ∀ m ∈ t'.names, m.name ≠ a'.name)
    (htaken : (t'.alias? a'.name).isSome = (t.alias? a.name).isSome)
    (hids : t'.aliases.any (·.id == a'.id.render) = t.aliases.any (·.id == a.id.render)) :
    Namebook.Paired ρ.Errs
      (fun s s' => s.Alike ρ F p s' ∧ s.document? p = t.document? p ∧ s'.document? p = t'.document? p)
      (Rows.insertAlias a position t) (Rows.insertAlias a' position t') := by
  have hdoc' : a'.document = p := ha.document.trans hdoc
  have hfirst' : a'.primary = true → t'.aliasesOf p = [] := by
    intro hset
    have hlength := h.length_aliasesOf
    rw [hfirst (hprimary.symm.trans hset)] at hlength
    exact List.length_eq_zero_iff.1 hlength
  have hinsert := paired_insert t t' a a' position position hname hprimary
    ((clash_of_first hdoc' hfirst').trans (clash_of_first hdoc hfirst).symm)
    (by rw [← isSome_alias?, ← isSome_alias?, htaken]) hids
    ((any_key_eq_false_iff.2 hfree').trans (any_key_eq_false_iff.2 hfree).symm) (by rw [hdoc', hdoc, h.hasDocument])
  refine hinsert.mono (fun _ _ he => he) ?_
  rintro _ _ ⟨rfl, rfl, -⟩
  exact ⟨h.withAlias ha hdoc hlast, rfl, rfl⟩

/-- Every change of an alias begins with a look at its document. -/
theorem paired_ensure {V : Document → Tables → Document → Tables → Prop} {rest rest' : Unit → Work Document}
    (h : t.Mirrors ρ p t') (hrest : Work.Paired ρ.Errs V (rest ()) t (rest' ()) t') :
    Work.Paired ρ.Errs V (query (Rows.ensureDocument · p) >>= rest) t
      (query (Rows.ensureDocument · p) >>= rest') t' := by
  refine paired_query_bind (R := fun _ _ => True) ?_ fun _ _ _ => hrest
  rw [h.ensureDocument]
  unfold Rows.ensureDocument
  split
  · exact trivial
  · exact rfl

/-- **An alias is created in both stores or in none.** -/
theorem paired_createAlias (h : t.Mirrors ρ p t') (hF : F f f')
    (hclaim : Rows.nameClaim t' (ρ n) = Rows.nameClaim t n)
    (htaken : (t'.alias? (ρ n)).isSome = (t.alias? n).isSome)
    (hids : t'.aliases.any (·.id == f'.id.render) = t.aliases.any (·.id == f.id.render)) :
    Work.Paired ρ.Errs (Settles ρ F p t t') (createAlias f p n) t (createAlias f' p (ρ n)) t' := by
  unfold createAlias
  refine paired_ensure h ?_
  refine paired_query_bind (paired_of_blames hclaim (Rows.nameClaim_blames t n))
    fun claim claim' hsame => ?_
  obtain ⟨rfl, hresult⟩ := hsame
  refine paired_guard rfl (fun _ => rfl) fun hnone => ?_
  have hnone : claim' = none := by simpa using hnone
  subst hnone
  refine paired_query_bind (R := fun x x' => x = (t.aliasesOf p).isEmpty ∧ x' = x)
    ⟨rfl, h.isEmpty_aliasesOf⟩ fun primary primary' hprimary => ?_
  obtain ⟨hprimary, rfl⟩ := hprimary
  refine paired_query_bind (paired_of_blames h.nextPosition
      ((Rows.nextPosition_blames t p).mono fun _ => RepositoryError.OfStore.isFault))
    fun position position' hsame => ?_
  obtain ⟨rfl, hnext⟩ := hsame
  have hlast : ∀ b ∈ t.aliasesOf p, b.position < position' := fun b hb =>
    Int64.lt_iff_toInt_lt.2 (lt_nextPosition hnext b hb)
  have hrow : (Rows.aliasRow ⟨f.id, n, primary', p⟩ position').Alike ρ F
      (Rows.aliasRow ⟨f'.id, ρ n, primary', p⟩ position') :=
    ⟨rfl, rfl, rfl, rfl, Or.inr ⟨f, f', hF, rfl, rfl⟩⟩
  have hinsert := paired_insertAlias h hrow rfl rfl rfl hlast
    (fun hset => List.isEmpty_iff.1 (hprimary.symm.trans hset))
    (Rows.nameClaim_eq_none_iff.1 hresult) (Rows.nameClaim_eq_none_iff.1 (hclaim.trans hresult))
    htaken hids
  exact paired_change_bind hinsert fun s s' hs => paired_finish hs.1 hF hs.2.1 hs.2.2

/-- **An alias is deleted from both stores or from none.** -/
theorem paired_deleteAlias (h : t.Mirrors ρ p t') (hF : F f f')
    (howned : Namebook.Paired ρ.Errs (fun a a' => a' = ρ.onAlias a) (Rows.ownedAlias t p n)
      (Rows.ownedAlias t' p (ρ n))) :
    Work.Paired ρ.Errs (Settles ρ F p t t') (deleteAlias f p n) t (deleteAlias f' p (ρ n)) t' := by
  unfold deleteAlias
  refine paired_ensure h ?_
  refine paired_query_bind howned fun a a' ha => ?_
  subst ha
  refine paired_query_bind (R := fun x x' => x' = x) h.length_aliasesOf fun count count' hsame => ?_
  subst hsame
  refine paired_guard rfl (fun _ => rfl) fun _ => ?_
  have hdelete : ∀ s : Tables, Rows.deleteAlias a.id s = s.withoutAliases (·.id == a.id.render) :=
    removeAliases_eq _
  refine paired_change_bind
    (R := fun s s' => s = t.withoutAliases (·.id == a.id.render) ∧
      s' = t'.withoutAliases (·.id == a.id.render))
    ⟨hdelete t, hdelete t'⟩ fun s s' hs => ?_
  obtain ⟨rfl, rfl⟩ := hs
  exact paired_finish (h.withoutAliases a.id).alike hF rfl rfl

/-- **An alias is promoted in both stores or in none**, if setting the one flag is accepted by both or
by none. -/
theorem paired_promoteAlias (h : t.Mirrors ρ p t') (hF : F f f')
    (howned : Namebook.Paired ρ.Errs (fun a a' => a' = ρ.onAlias a) (Rows.ownedAlias t p n)
      (Rows.ownedAlias t' p (ρ n)))
    (hset : ∀ a, Rows.ownedAlias t p n = .ok a → Namebook.Paired ρ.Errs (fun _ _ => True)
      (Rows.promote a.id (Rows.demoteAll p t)) (Rows.promote a.id (Rows.demoteAll p t'))) :
    Work.Paired ρ.Errs (Settles ρ F p t t') (promoteAlias f p n) t (promoteAlias f' p (ρ n)) t' := by
  unfold promoteAlias
  refine paired_ensure h ?_
  refine paired_query_bind howned.told fun a a' ha => ?_
  obtain ⟨rfl, hfound, -⟩ := ha
  cases hprimary : a.primary with
  | true =>
    have hprimary' : (ρ.onAlias a).primary = true := hprimary
    rw [hprimary']
    exact paired_query (h.alike.loadRequired.mono (fun _ _ he => he) fun d d' hd =>
      ⟨hd, h.alike, iff_of_true rfl rfl⟩)
  | false =>
    have hprimary' : (ρ.onAlias a).primary = false := hprimary
    rw [hprimary']
    refine paired_change_bind (R := fun s s' => s = Rows.demoteAll p t ∧ s' = Rows.demoteAll p t')
      ⟨rfl, rfl⟩ fun s s' hs => ?_
    obtain ⟨rfl, rfl⟩ := hs
    have hmoved : Namebook.Paired ρ.Errs
        (fun s s' => s = t.flagMoved p a.id ∧ s' = t'.flagMoved p a.id)
        (Rows.promote a.id (Rows.demoteAll p t)) (Rows.promote a.id (Rows.demoteAll p t')) := by
      refine (hset a hfound).told.mono (fun _ _ he => he) fun s s' hs => ⟨?_, ?_⟩
      · exact (setFlag_eq_ok_iff.1 (Rows.promote_eq_ok_iff.1 hs.2.1)).2
      · exact (setFlag_eq_ok_iff.1 (Rows.promote_eq_ok_iff.1 hs.2.2)).2
    refine paired_change_bind hmoved fun s s' hs => ?_
    obtain ⟨rfl, rfl⟩ := hs
    exact paired_finish (h.flagMoved a.id).alike hF (document?_flagMoved _ _ _ _)
      (document?_flagMoved _ _ _ _)

end Work

end Namebook
