/-
  Namebook.Proofs.Commutation
  ───────────────────────────
  **CALLS ON DIFFERENT DOCUMENTS AND NAMES COMMUTE — unless one shows what the other changes.**

  A call looks at its own document, at its own name, and, where this name is another document's, at a
  little of that document: whether it can be loaded, which alias is primary, or all of it if the name is
  resolved.  Only there the order of two calls can be told.

    • `ServiceCall.Watches` — one call shows what the other may change;
    • `seesSame_of_changes` — else the other's change is not seen;
    • `Database.unaffected` — a call after the other one, and without it;
    • `Database.calls_are_local` — locality and commutation.
-/
import Namebook.Proofs.Locality

namespace Namebook

/-! ## §1. What one call sees of another. -/

/-- **One call shows what another one may change**, though it is about another document and another name:
it views the primary alias of the document in which the other makes an alias primary, or adds the public
id of the other's document while that document cannot be loaded, or resolves a name of the other's
document. -/
inductive ServiceCall.Watches (t : Tables) : ServiceCall → ServiceCall → Prop where
  | primary {p n q m : String} {a : AliasRow} : t.alias? n = some a → a.document = q → a.flag = 1 →
      Watches t (.view p n) (.promote q m)
  | damaged {p q m : String} {y : ServiceCall} {e : RepositoryError} :
      Rows.loadDocument t q = .error e → y.On q m → Watches t (.add p q) y
  | publicId {q m : String} {y : ServiceCall} : y.On q m → Watches t (.resolve q) y
  | owner {n m : String} {y : ServiceCall} {a : AliasRow} : t.alias? n = some a → y.On a.document m →
      Watches t (.resolve n) y

/-- A promotion is on its document only. -/
theorem ServiceCall.On.promotes {p q n m : String} (h : (ServiceCall.promote p n).On q m) : q = p := by
  cases h
  rfl

/-- What does not tell values in `V` apart. -/
theorem eq_of_paired {ε α γ : Type} {V : α → α → Prop} {a b : Except ε α} (h : Paired Eq V a b)
    (g : Except ε α → γ) (hg : ∀ v v', V v v' → g (.ok v') = g (.ok v)) : g b = g a := by
  rcases h.cases with ⟨e, e', rfl, rfl, rfl⟩ | ⟨v, v', rfl, rfl, hv⟩
  · rfl
  · exact hg v v' hv

namespace Tables

variable {t t' : Tables} {p q n m : String} {fresh : Fresh} {d : Document} {x y : ServiceCall}
  {a : AliasRow}

/-- A row is decoded with the flag and without it, or neither way. -/
theorem findAlias_of_unflagged (hrow : t.alias? n = some a) (hset : a.flag = 1)
    (hrow' : t'.alias? n = some { a with flag := 0 }) :
    Paired Eq (fun found found' => ∃ b b', found = some b ∧ found' = some b' ∧
      b.document = a.document ∧ b'.document = a.document) (Rows.findAlias t n) (Rows.findAlias t' n) := by
  unfold Rows.findAlias Rows.decodeAlias
  rw [hrow, hrow']
  cases hid : Uuid.parse? a.id with
  | none =>
    simp only [hid]
    exact rfl
  | some u =>
    simp only [hid, hset]
    exact ⟨_, _, rfl, rfl, rfl, rfl⟩

/-- **What a call does not watch it sees unchanged.** -/
theorem Canonical.seesSame_of_changes {r : Request} {w : Work Document} (h : t.Canonical)
    (hx : x.On p n) (hy : y.On q m) (hpq : p ≠ q) (hnm : n ≠ m) (hr : y.change? = some r)
    (hwork : r.work? fresh = some w) (hrun : w.runOn t = (.ok d, t')) (hwatch : ¬x.Watches t y) :
    x.SeesSame t t' := by
  have hspared := h.spares_of_changes (hy.changes hr) hwork hrun
  -- the alias of that name is as it was, or is not primary any more
  have hfound : t'.alias? n = t.alias? n ∨ y = .promote q m ∧ ∃ a, t.alias? n = some a ∧
      a.document = q ∧ a.flag = 1 ∧ t'.alias? n = some { a with flag := 0 } := by
    refine (h.alias?_granted (hy.changes hr) hwork hrun hnm).imp id fun hmoved => ⟨?_, hmoved.2⟩
    rw [hmoved.1] at hr
    cases hy <;> cases hr
    rfl
  have howned : Rows.ownedAlias t' p n = Rows.ownedAlias t p n := by
    unfold Rows.ownedAlias
    rcases hfound with hsame | ⟨-, a, hrow, howner, hset, hrow'⟩
    · unfold Rows.findAlias
      rw [hsame]
    · refine eq_of_paired (findAlias_of_unflagged hrow hset hrow') (· >>= _) ?_
      rintro _ _ ⟨b, b', rfl, rfl, hb, hb'⟩
      -- the alias is the other document's either way
      show (if b'.document = p then _ else _) = (if b.document = p then _ else _)
      rw [if_neg fun hp => hpq (hp.symm.trans (hb'.trans howner)),
        if_neg fun hp => hpq (hp.symm.trans (hb.trans howner))]
  cases hx with
  | add =>
    refine ⟨?_, ?_, ?_⟩
    · rcases hfound with hsame | ⟨-, a, hrow, -, -, hrow'⟩
      · rw [hsame]
      · rw [hrow, hrow']
        rfl
    · rcases hfound with hsame | ⟨-, a, hrow, -, hset, hrow'⟩
      · unfold Rows.findAlias
        rw [hsame]
      · refine eq_of_paired (findAlias_of_unflagged hrow hset hrow') (·.map Option.isSome) ?_
        rintro _ _ ⟨b, b', rfl, rfl, -, -⟩
        rfl
    · by_cases hq : n = q
      · -- the document could be loaded before, and can be loaded now
        subst hq
        have hload := (Request.loads_of_granted hwork hrun).2
        rw [publicId_of_changes (hy.changes hr) hwork hrun] at hload
        rw [hload]
        cases hbefore : Rows.loadDocument t n with
        | error e => exact absurd (.damaged hbefore hy) hwatch
        | ok found =>
          cases found with
          | some d' => rfl
          | none =>
            have hstored := hasDocument_of_changes (hy.changes hr) hwork hrun
            rw [hasDocument_eq, loadDocument_eq_none_iff.1 hbefore] at hstored
            cases hstored
      · rw [hspared.loadDocument hq]
  | remove => exact howned
  | promote => exact howned
  | view =>
    rcases hfound with hsame | ⟨rfl, a, hrow, howner, hset, -⟩
    · show Rows.findAlias t' n = Rows.findAlias t n
      unfold Rows.findAlias
      rw [hsame]
    · exact absurd (.primary hrow howner hset) hwatch
  | resolve =>
    have hq : n ≠ q := by
      rintro rfl
      exact hwatch (.publicId hy)
    refine ⟨hspared.loadDocument hq, ?_⟩
    rcases hfound with hsame | ⟨rfl, a, hrow, rfl, -, -⟩
    · unfold Rows.findByAlias
      rw [hsame]
      cases hrow : t.alias? n with
      | none => rfl
      | some a =>
        refine hspared.loadDocument ?_
        rintro rfl
        exact hwatch (.owner hrow hy)
    · exact absurd (.owner hrow hy) hwatch

end Tables

/-! ## §2. One supply. -/

section Equal

variable {F : Fresh → Fresh → Prop}

/-- One supply draws the same for both sides. -/
theorem Supply.eq_of_draws {supply : Supply} {f f' : Fresh} (h : supply.Draws supply f f') : f = f' := by
  obtain ⟨k, rfl, rfl⟩ := h
  rfl

theorem Drawn.eq {α : Type} {key : Fresh → α} {v v' : α} (h : Drawn F key v v')
    (hF : ∀ f f', F f f' → f = f') : v' = v := by
  rcases h with h | ⟨f, f', hf, rfl, rfl⟩
  · exact h
  · rw [hF f f' hf]

theorem forall₂_eq {α : Type} {R : α → α → Prop} {l l' : List α} (h : List.Forall₂ R l l')
    (hR : ∀ a b, R a b → b = a) : l' = l := by
  induction h with
  | nil => rfl
  | cons hab _ ih => rw [hR _ _ hab, ih]

theorem AliasRow.Alike.eq {a a' : AliasRow} (h : a.Alike Renaming.refl F a')
    (hF : ∀ f f', F f f' → f = f') : a' = a := by
  obtain ⟨hname, hdocument, hflag, hposition, hid⟩ := h
  have hid := hid.eq hF
  cases a
  cases a'
  congr

theorem DocumentRow.Alike.eq {d d' : DocumentRow} (h : d.Alike F d')
    (hF : ∀ f f', F f f' → f = f') : d' = d := by
  obtain ⟨hid, hversion, hcreated, hupdated⟩ := h
  have hcreated := hcreated.eq hF
  have hupdated := hupdated.eq hF
  cases d
  cases d'
  congr

theorem Alias.Alike.eq {a a' : Alias} (h : a.Alike Renaming.refl F a')
    (hF : ∀ f f', F f f' → f = f') : a' = a := by
  obtain ⟨hname, hdocument, hprimary, hid⟩ := h
  have hid := hid.eq hF
  cases a
  cases a'
  congr

theorem Document.Alike.eq {d d' : Document} (h : d.Alike Renaming.refl F d')
    (hF : ∀ f f', F f f' → f = f') : d' = d := by
  obtain ⟨hid, haliases, hversion, hcreated, hupdated⟩ := h
  have haliases := forall₂_eq haliases fun a b hab => hab.eq hF
  have hcreated := hcreated.eq hF
  have hupdated := hupdated.eq hF
  cases d
  cases d'
  congr

theorem ServiceCall.Same.eq {x : ServiceCall} {v v' : x.Found} (h : x.Same F v v')
    (hF : ∀ f f', F f f' → f = f') : v' = v := by
  cases x with
  | view p n => exact h
  | add p n => exact Document.Alike.eq h hF
  | remove p n => exact Document.Alike.eq h hF
  | promote p n => exact Document.Alike.eq h hF
  | resolve n => exact Document.Alike.eq h hF
  | create initial => exact Document.Alike.eq h hF

/-- What is alike is the same then. -/
theorem Tables.Alike.eq {p : String} {t t' : Tables} (h : t.Alike Renaming.refl F p t')
    (hF : ∀ f f', F f f' → f = f') : t'.document? p = t.document? p ∧ t'.listed p = t.listed p := by
  refine ⟨?_, forall₂_eq h.listed fun a b hab => hab.eq hF⟩
  have hdocument := h.document
  generalize t.document? p = found, t'.document? p = found' at hdocument
  cases hdocument with
  | none => rfl
  | some hd => rw [hd.eq hF]

end Equal

/-! ## §3. Two calls, one after the other. -/

namespace Database

variable {db : Database} {x y : ServiceCall} {p q n m : String}

theorem regular_call (hx : x.On p n) (h : db.committed.Regular) (c : Connection) (supply : Supply)
    (reserved : ReservedNames) : (db.call c supply (x.dialogue reserved)).state.committed.Regular := by
  rcases call_cases_on hx db c supply reserved with
    hkept | ⟨r, k, w, d, t, -, hwork, -, hrun, hafter⟩
  · rw [hkept]
    exact h
  · rw [hafter]
    exact h.granted hwork hrun

/-- **A call goes the same way after another one**, on another document and another name, as without it. -/
theorem unaffected (hx : x.On p n) (hy : y.On q m) (hpq : p ≠ q) (hnm : n ≠ m)
    (hregular : db.committed.Regular) (c c' : Connection) {supply supply' : Supply}
    (reserved reserved' : ReservedNames) (hnew : supply.NewTo db.committed)
    (happart : ∀ k k', (supply.fresh k).id ≠ (supply'.fresh k').id)
    (hwatch : x.Watches db.committed y → (db.call c' supply' (y.dialogue reserved')).state = db) :
    let x₁ := db.call c supply (x.dialogue reserved)
    let y₁ := db.call c' supply' (y.dialogue reserved')
    let x₂ := y₁.state.call c supply (x.dialogue reserved)
    (x₂.value = x₁.value ∧ x₂.log = x₁.log) ∧
      x₂.state.committed.document? p = x₁.state.committed.document? p ∧
      x₂.state.committed.listed p = x₁.state.committed.listed p ∧
      x₂.state.committed.name? n = x₁.state.committed.name? n := by
  intro x₁ y₁ x₂
  by_cases hkept : y₁.state = db
  · have hsame : x₂ = x₁ := by
      show y₁.state.call c supply _ = _
      rw [hkept]
    rw [hsame]
    exact ⟨⟨rfl, rfl⟩, rfl, rfl, rfl⟩
  · rcases call_cases_on hy db c' supply' reserved' with
      hkept' | ⟨r, k, w, d, t, hr, hwork, hheld, hrun, hafter⟩
    · exact absurd hkept' hkept
    · have hspared := hregular.spares_of_changes (hy.changes hr) hwork hrun
      have hsees : x.SeesSame db.committed t :=
        hregular.seesSame_of_changes hx hy hpq hnm hr hwork hrun fun h => hkept (hwatch h)
      have htwins : db.Twins (fun s s' => x.SeesSame s s') { db with committed := t } := by
        refine ⟨hsees, ?_, rfl⟩
        show Option.Rel _ db.held db.held
        rw [hheld]
        exact .none
      have hagrees : db.committed.Agrees p t :=
        ⟨hspared.document p hpq, by rw [hspared.aliases p hpq]⟩
      have hclaim : t.name? n = db.committed.name? n :=
        hspared.claims n fun hn => hnm (List.mem_singleton.1 hn)
      have hnew' : supply.NewTo t := by
        intro j a ha hid
        rcases Tables.ids_of_changes (hy.changes hr) hwork hrun a ha with ⟨b, hb, hsame⟩ | hfresh
        · exact hnew j b hb (hsame.trans hid)
        · exact happart j k (Uuid.render_injective (hid.symm.trans hfresh))
      have halike := call_alike (c := c) hx htwins hagrees hclaim hregular (hregular.granted hwork hrun)
        hnew hnew' reserved
      have hstate : x₂ = Database.call { db with committed := t } c supply (x.dialogue reserved) := by
        show y₁.state.call c supply _ = _
        rw [hafter]
      rw [hstate]
      obtain ⟨hvalue, hlog, hrows, hname⟩ := halike
      obtain ⟨hdocument, hlisted⟩ := hrows.eq fun f f' => Supply.eq_of_draws
      refine ⟨⟨?_, hlog⟩, hdocument, hlisted, hname⟩
      exact eq_of_paired hvalue id fun v v' hv => congrArg Except.ok (hv.eq fun f f' => Supply.eq_of_draws)

end Database

/-! ## §4. Two orders. -/

/-- **The same rows**, in whatever order they are kept. -/
structure Tables.SameRows (t t' : Tables) : Prop where
  documents : t'.documents.Perm t.documents
  aliases : t'.aliases.Perm t.aliases
  names : t'.names.Perm t.names
  onePrimary : t'.onePrimary = t.onePrimary

/-- Rows that are found by the same keys are the same. -/
theorem perm_of_find? {α κ : Type} [DecidableEq κ] {key : α → κ} {l l' : List α}
    (h : l.Pairwise fun a b => key a ≠ key b) (h' : l'.Pairwise fun a b => key a ≠ key b)
    (hfind : ∀ k, l'.find? (fun a => key a == k) = l.find? fun a => key a == k) : l'.Perm l := by
  have hnodup : ∀ {l : List α}, (l.Pairwise fun a b => key a ≠ key b) → l.Nodup := fun hl =>
    hl.imp fun hne heq => hne (congrArg key heq)
  refine (List.perm_ext_iff_of_nodup (hnodup h') (hnodup h)).2 fun a => ?_
  have hmem : ∀ {l : List α}, (l.Pairwise fun a b => key a ≠ key b) →
      (a ∈ l ↔ l.find? (fun b => key b == key a) = some a) := fun hl => by
    rw [find?_key_eq_some_iff hl]
    exact (and_iff_left rfl).symm
  rw [hmem h', hmem h, hfind]

/-- **Tables in which everything is found alike hold the same rows.** -/
theorem Tables.sameRows_of_lookups {t t' : Tables} (h : t.Regular) (h' : t'.Regular)
    (hdocuments : ∀ q, t'.document? q = t.document? q) (hlisted : ∀ q, t'.listed q = t.listed q)
    (hnames : ∀ m, t'.name? m = t.name? m) (hindex : t'.onePrimary = t.onePrimary) :
    t.SameRows t' where
  documents := perm_of_find? h.publicIds h'.publicIds hdocuments
  aliases := by
    have hnodup : ∀ {s : Tables}, s.Regular → s.aliases.Nodup := fun hs =>
      hs.ids.imp fun hne heq => hne (congrArg AliasRow.id heq)
    have hmem : ∀ (s : Tables) (a : AliasRow), a ∈ s.aliases ↔ a ∈ s.listed a.document := fun s a =>
      ⟨fun ha => mem_sortRows.2 (mem_aliasesOf.2 ⟨ha, rfl⟩),
        fun ha => (mem_aliasesOf.1 (mem_sortRows.1 ha)).1⟩
    refine (List.perm_ext_iff_of_nodup (hnodup h') (hnodup h)).2 fun a => ?_
    rw [hmem t', hmem t, hlisted]
  names := perm_of_find? h.entries h'.entries hnames
  onePrimary := hindex

/-- What two changes leave, each of which changes one thing of its own and sees the other's as it was. -/
theorem eq_of_halves {κ α : Type} {p q : κ} {start first second first' second' : κ → α} (hne : p ≠ q)
    (hfirst : ∀ k, k ≠ p → first k = start k) (hsecond : ∀ k, k ≠ q → second k = start k)
    (hfirst' : ∀ k, k ≠ p → first' k = second k) (hsecond' : ∀ k, k ≠ q → second' k = first k)
    (hp : first' p = first p) (hq : second' q = second q) (k : κ) : second' k = first' k := by
  by_cases hkp : k = p
  · subst hkp
    rw [hp, hsecond' k hne]
  · by_cases hkq : k = q
    · subst hkq
      rw [hq, hfirst' k hkp]
    · rw [hsecond' k hkq, hfirst k hkp, hfirst' k hkp, hsecond k hkq]

namespace Database

variable {db : Database} {x y : ServiceCall} {p q n m : String}

theorem onePrimary_call (hx : x.On p n) (db : Database) (c : Connection) (supply : Supply)
    (reserved : ReservedNames) :
    (db.call c supply (x.dialogue reserved)).state.committed.onePrimary = db.committed.onePrimary := by
  rcases call_cases_on hx db c supply reserved with
    hkept | ⟨r, k, w, d, t, -, hwork, -, hrun, hafter⟩
  · rw [hkept]
  · rw [hafter]
    exact Tables.onePrimary_granted hwork hrun

/-- **Calls on different documents and different names commute**, unless one watches what the other
changes. -/
theorem commute (hx : x.On p n) (hy : y.On q m) (hpq : p ≠ q) (hnm : n ≠ m)
    (hregular : db.committed.Regular) (c c' : Connection) {supply supply' : Supply}
    (reserved reserved' : ReservedNames) (hnew : supply.NewTo db.committed)
    (hnew' : supply'.NewTo db.committed)
    (happart : ∀ k k', (supply.fresh k).id ≠ (supply'.fresh k').id)
    (hxy : x.Watches db.committed y → (db.call c' supply' (y.dialogue reserved')).state = db)
    (hyx : y.Watches db.committed x → (db.call c supply (x.dialogue reserved)).state = db) :
    let x₁ := db.call c supply (x.dialogue reserved)
    let y₁ := db.call c' supply' (y.dialogue reserved')
    let x₂ := y₁.state.call c supply (x.dialogue reserved)
    let y₂ := x₁.state.call c' supply' (y.dialogue reserved')
    (x₂.value = x₁.value ∧ x₂.log = x₁.log) ∧ (y₂.value = y₁.value ∧ y₂.log = y₁.log) ∧
      x₂.state.committed.SameRows y₂.state.committed ∧
      y₂.state.held = x₂.state.held ∧ y₂.state.readers = x₂.state.readers := by
  intro x₁ y₁ x₂ y₂
  obtain ⟨hanswer, hdocument, hlisted, hname⟩ :=
    unaffected hx hy hpq hnm hregular c c' reserved reserved' hnew happart hxy
  obtain ⟨hanswer', hdocument', hlisted', hname'⟩ :=
    unaffected hy hx hpq.symm hnm.symm hregular c' c reserved' reserved hnew'
      (fun k k' => (happart k' k).symm) hyx
  have hregular₁ := regular_call hx hregular c supply reserved
  have hregular₁' := regular_call hy hregular c' supply' reserved'
  have hspares₁ := call_spares hx hregular.toCanonical c supply reserved
  have hspares₁' := call_spares hy hregular.toCanonical c' supply' reserved'
  have hspares₂ := call_spares hx hregular₁'.toCanonical c supply reserved
  have hspares₂' := call_spares hy hregular₁.toCanonical c' supply' reserved'
  refine ⟨hanswer, hanswer', ?_, ?_, ?_⟩
  · refine Tables.sameRows_of_lookups (regular_call hx hregular₁' c supply reserved)
      (regular_call hy hregular₁ c' supply' reserved') ?_ ?_ ?_ ?_
    · exact eq_of_halves hpq hspares₁.tables.document hspares₁'.tables.document
        hspares₂.tables.document hspares₂'.tables.document hdocument hdocument'
    · exact eq_of_halves hpq (fun _ => hspares₁.tables.listed) (fun _ => hspares₁'.tables.listed)
        (fun _ => hspares₂.tables.listed) (fun _ => hspares₂'.tables.listed) hlisted hlisted'
    · have hother : ∀ {k l : String}, k ≠ l → k ∉ [l] := fun hne hk => hne (List.mem_singleton.1 hk)
      exact eq_of_halves hnm (fun k hk => hspares₁.tables.claims k (hother hk))
        (fun k hk => hspares₁'.tables.claims k (hother hk))
        (fun k hk => hspares₂.tables.claims k (hother hk))
        (fun k hk => hspares₂'.tables.claims k (hother hk)) hname hname'
    · exact (onePrimary_call hy x₁.state c' supply' reserved').trans
        ((onePrimary_call hx db c supply reserved).trans
          ((onePrimary_call hx y₁.state c supply reserved).trans
            (onePrimary_call hy db c' supply' reserved')).symm)
  · exact (hspares₂'.held.trans hspares₁.held).trans (hspares₂.held.trans hspares₁'.held).symm
  · exact (hspares₂'.readers.trans hspares₁.readers).trans
      (hspares₂.readers.trans hspares₁'.readers).symm

/-- **Calls are local.**

Two stores hold anything, damage included, but keys are unique and ids canonical.  They agree on what a
call on the document `p` and the name `n` is about, and have the same locks.  Then the call gives the same
value on both, up to new ids and times, writes the same log, and leaves the document and the claim of the
name alike; in each store all other documents, their aliases and all other claims stay, and every other
document is loaded as before or fails to load as before.

Two calls on different documents and different names give the same values and write the same logs in
either order and leave the same rows, each drawing from a supply of its own, unless one watches what the
other changes. -/
theorem calls_are_local :
    (∀ (db db' : Database) (c : Connection) (supply supply' : Supply) (reserved : ReservedNames)
        (x : ServiceCall) (p n : String), x.On p n →
      db.Twins (fun t t' => t.Regular ∧ t'.Regular ∧ t.AgreesOn p n t') db' →
      supply.NewTo db.committed → supply'.NewTo db'.committed →
      let o := db.call c supply (x.dialogue reserved)
      let o' := db'.call c supply' (x.dialogue reserved)
      (Paired Eq (x.Same (supply.Draws supply')) o.value o'.value ∧ o'.log = o.log ∧
        o.state.committed.Alike Renaming.refl (supply.Draws supply') p o'.state.committed ∧
        o'.state.committed.name? n = o.state.committed.name? n) ∧
      (db.Spares o.state p [n] ∧ db'.Spares o'.state p [n]) ∧
      ∀ q, q ≠ p → Rows.loadDocument o.state.committed q = Rows.loadDocument db.committed q ∧
        Rows.loadDocument o'.state.committed q = Rows.loadDocument db'.committed q) ∧
    (∀ (db : Database) (c c' : Connection) (supply supply' : Supply)
        (reserved reserved' : ReservedNames) (x y : ServiceCall) (p n q m : String),
      x.On p n → y.On q m → p ≠ q → n ≠ m → db.committed.Regular → supply.NewTo db.committed →
      supply'.NewTo db.committed → (∀ k k', (supply.fresh k).id ≠ (supply'.fresh k').id) →
      let x₁ := db.call c supply (x.dialogue reserved)
      let y₁ := db.call c' supply' (y.dialogue reserved')
      let x₂ := y₁.state.call c supply (x.dialogue reserved)
      let y₂ := x₁.state.call c' supply' (y.dialogue reserved')
      (x.Watches db.committed y → y₁.state = db) → (y.Watches db.committed x → x₁.state = db) →
      (x₂.value = x₁.value ∧ x₂.log = x₁.log) ∧ (y₂.value = y₁.value ∧ y₂.log = y₁.log) ∧
        x₂.state.committed.SameRows y₂.state.committed ∧
        y₂.state.held = x₂.state.held ∧ y₂.state.readers = x₂.state.readers) := by
  constructor
  · intro db db' c supply supply' reserved x p n hx hstores hnew hnew' o o'
    obtain ⟨halike, hspares, hspares'⟩ := locality (c := c) hx hstores hnew hnew' reserved
    exact ⟨halike, ⟨hspares, hspares'⟩, fun q hne =>
      ⟨hspares.tables.loadDocument hne, hspares'.tables.loadDocument hne⟩⟩
  · intro db c c' supply supply' reserved reserved' x y p n q m hx hy hpq hnm hregular hnew hnew' happart
      x₁ y₁ x₂ y₂ hxy hyx
    exact commute hx hy hpq hnm hregular c c' reserved reserved' hnew hnew' happart hxy hyx

/-- A store with a document `d` that has the aliases `a` and `b`, and a document `e` whose alias `z` has
the given flag. -/
def neighbours (flag : Int64) : Database :=
  { committed :=
      { names := [⟨"d", "public_id"⟩, ⟨"e", "public_id"⟩, ⟨"a", "alias"⟩, ⟨"b", "alias"⟩,
          ⟨"z", "alias"⟩]
        documents := [⟨"d", 0, 1, 1⟩, ⟨"e", 0, 1, 1⟩]
        aliases := [⟨(Uuid.mk 7).render, "a", "d", 1, 0⟩, ⟨(Uuid.mk 8).render, "b", "d", 0, 1⟩,
          ⟨(Uuid.mk 9).render, "z", "e", flag, 0⟩]
        onePrimary := true }
    held := none
    readers := [] }

/-- A supply of one id and one time. -/
def supplyOf (id : Nat) (now : Int64) : Supply :=
  { plainSupply with fresh := fun _ => ⟨⟨BitVec.ofNat 128 id⟩, now⟩ }

theorem newTo_neighbours (flag : Int64) {id : Nat} {now : Int64}
    (h : (Uuid.mk 7).render ≠ (Uuid.mk (BitVec.ofNat 128 id)).render)
    (h' : (Uuid.mk 8).render ≠ (Uuid.mk (BitVec.ofNat 128 id)).render)
    (h'' : (Uuid.mk 9).render ≠ (Uuid.mk (BitVec.ofNat 128 id)).render) :
    (supplyOf id now).NewTo (neighbours flag).committed := by
  intro k a ha
  simp only [neighbours, List.mem_cons, List.not_mem_nil, or_false] at ha
  rcases ha with rfl | rfl | rfl
  · exact h
  · exact h'
  · exact h''

theorem regular_neighbours (flag : Int64) : (neighbours flag).committed.Regular where
  publicIds := by simp [neighbours]
  names := by simp [neighbours]
  ids := by
    have hids : ((neighbours 0).committed.aliases.map (·.id)).Pairwise (· ≠ ·) := by decide +kernel
    exact List.pairwise_map.1 hids
  spelled := by
    intro a ha
    simp only [neighbours, List.mem_cons, List.not_mem_nil, or_false] at ha
    rcases ha with rfl | rfl | rfl <;> exact ⟨_, rfl⟩
  entries := by simp [neighbours]

/-- **A neighbour's damage is not seen, and a neighbour's change does not matter.**  Where `z` is not
primary, `e` cannot be loaded; the promotion of `b` in `d` succeeds all the same.  And it makes no
difference whether an alias is added to `e` before it or after it. -/
theorem calls_are_local_neighbours :
    let x := ServiceCall.promote "d" "b"
    let y := ServiceCall.add "e" "n"
    let o := (neighbours 1).call 1 (supplyOf 77 5) (x.dialogue ⟨[]⟩)
    let o' := (neighbours 0).call 1 (supplyOf 78 6) (x.dialogue ⟨[]⟩)
    let added := (neighbours 1).call 2 (supplyOf 78 6) (y.dialogue ⟨[]⟩)
    let promotedLast := added.state.call 1 (supplyOf 77 5) (x.dialogue ⟨[]⟩)
    let addedLast := o.state.call 2 (supplyOf 78 6) (y.dialogue ⟨[]⟩)
    ((∃ e, Rows.loadDocument (neighbours 0).committed "e" = .error e) ∧
      (∃ d, Rows.loadDocument (neighbours 1).committed "e" = .ok (some d)) ∧
      (∃ d, o.value = .ok d) ∧ ∃ d, added.value = .ok d) ∧
    Paired Eq (x.Same ((supplyOf 77 5).Draws (supplyOf 78 6))) o.value o'.value ∧
    (promotedLast.value = o.value ∧ promotedLast.log = o.log) ∧
    (addedLast.value = added.value ∧ addedLast.log = added.log) ∧
    promotedLast.state.committed.SameRows addedLast.state.committed := by
  dsimp only
  have hnew : ∀ flag, (supplyOf 77 5).NewTo (neighbours flag).committed :=
    fun flag => newTo_neighbours flag (by decide) (by decide) (by decide)
  have hnew' : ∀ flag, (supplyOf 78 6).NewTo (neighbours flag).committed :=
    fun flag => newTo_neighbours flag (by decide) (by decide) (by decide)
  have hagrees : (neighbours 1).committed.AgreesOn "d" "b" (neighbours 0).committed :=
    { document := ⟨rfl, .refl _⟩
      found := rfl
      owner := by
        rintro a ⟨⟩
        exact ⟨rfl, .refl _⟩
      named := ⟨rfl, .refl _⟩
      claim := rfl }
  have hstores : (neighbours 1).Twins (fun t t' => t.Regular ∧ t'.Regular ∧ t.AgreesOn "d" "b" t')
      (neighbours 0) :=
    ⟨⟨regular_neighbours 1, regular_neighbours 0, hagrees⟩, .none, rfl⟩
  refine ⟨⟨⟨_, rfl⟩, ⟨_, rfl⟩, ⟨_, rfl⟩, ⟨_, rfl⟩⟩, ?_, ?_⟩
  · exact (calls_are_local.1 _ _ 1 _ _ ⟨[]⟩ _ "d" "b" .promote hstores (hnew 1) (hnew' 0)).1.1
  · have happart : (Uuid.mk 77#128) ≠ Uuid.mk 78#128 := by decide
    have hxy : ¬ServiceCall.Watches (neighbours 1).committed (.promote "d" "b") (.add "e" "n") := nofun
    have hyx : ¬ServiceCall.Watches (neighbours 1).committed (.add "e" "n") (.promote "d" "b") := by
      rintro (_ | ⟨-, hon⟩)
      exact absurd hon.promotes (by decide)
    obtain ⟨hpromoted, hadded, hrows, -⟩ := calls_are_local.2 (neighbours 1) 1 2 (supplyOf 77 5)
      (supplyOf 78 6) ⟨[]⟩ ⟨[]⟩ _ _ "d" "b" "e" "n" .promote .add (by decide) (by decide)
      (regular_neighbours 1) (hnew 1) (hnew' 1) (fun _ _ => happart) (absurd · hxy) (absurd · hyx)
    exact ⟨hpromoted, hadded, hrows⟩

/-- **Not all calls on different documents with different names commute**: the view of `a` for the
document `e` tells whether `a` is primary, and promoting `b` in the document `d` changes this. -/
theorem view_shows_promotion :
    let x := ServiceCall.view "e" "a"
    let y := ServiceCall.promote "d" "b"
    let before := (neighbours 1).call 1 (supplyOf 77 5) (x.dialogue ⟨[]⟩)
    let promoted := (neighbours 1).call 2 (supplyOf 78 6) (y.dialogue ⟨[]⟩)
    let later := promoted.state.call 1 (supplyOf 77 5) (x.dialogue ⟨[]⟩)
    (neighbours 1).committed.Regular ∧ x.On "e" "a" ∧ y.On "d" "b" ∧ "e" ≠ "d" ∧ "a" ≠ "b" ∧
      before.value = .ok ⟨"a", true, "e"⟩ ∧ later.value = .ok ⟨"a", false, "e"⟩ := by
  refine ⟨regular_neighbours 1, .view, .promote, by decide, by decide, ?_, ?_⟩
  · rfl
  · rfl

end Database

end Namebook
