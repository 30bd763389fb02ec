/-
  Namebook.Proofs.View
  ────────────────────
  **A VIEW TELLS WHAT RESOLVING THE NAME FINDS — but for the document.**

  A view takes name and flag from the stored alias, and the public id from the document that the
  caller passes; resolving the name leads to the document that owns the alias.  On the alias the two
  agree in every reachable state; on the document they agree exactly if the caller named the owner:

    • `Database.view_agrees_with_resolution`;
    • `Database.view_names_other_document` — a caller who names another document is believed.
-/
import Namebook.Proofs.Identity
import Namebook.Proofs.Service.Alone

namespace Namebook

/-! ## §1. Aliases of a document. -/

namespace Tables

variable {t : Tables} {row : AliasRow} {owner : DocumentRow} {n : String}

/-- A document shows each of its rows under its name. -/
theorem Identity.aliasNamed?_documentOf (h : t.Identity) (hrow : row ∈ t.aliases)
    (hdoc : row.document = owner.publicId) :
    (t.documentOf owner).aliasNamed? row.name = some row.decoded := by
  have hnames : (sortRows (t.aliasesOf owner.publicId)).Pairwise fun a b => a.name ≠ b.name :=
    (perm_sortRows _).symm.pairwise (h.aliasNames.filter _) fun hne => hne.symm
  have hfound : (sortRows (t.aliasesOf owner.publicId)).find? (·.name == row.name) = some row :=
    (find?_key_eq_some_iff hnames).2 ⟨mem_sortRows.2 (mem_aliasesOf.2 ⟨hrow, hdoc⟩), rfl⟩
  show ((sortRows (t.aliasesOf owner.publicId)).map AliasRow.decoded).find? _ = _
  rw [List.find?_map]
  show ((sortRows (t.aliasesOf owner.publicId)).find? (·.name == row.name)).map _ = _
  rw [hfound]
  rfl

/-- The owner of an alias is found by the alias. -/
theorem Identity.findByAlias_of_alias? (h : t.Identity) (hrow : t.alias? n = some row) :
    ∃ owner, owner.publicId = row.document ∧
      Rows.findByAlias t n = .ok (some (t.documentOf owner)) := by
  obtain ⟨owner, hfound⟩ := h.toIndexed.owner_of_alias hrow
  refine ⟨owner, (mem_of_document? hfound).2, ?_⟩
  rw [h.findByAlias_eq, hrow]
  show Except.ok ((t.document? row.document).map t.documentOf) = _
  rw [hfound]
  rfl

end Tables

/-! ## §2. Views. -/

namespace Database

open Tables

variable {db : Database} {c : Connection} {supply : Supply} {reserved : ReservedNames} {p n : String}

/-- What all tables of a store have, those have that a client sees. -/
theorem Holds.view {P : Tables → Prop} {t : Tables} (h : db.Holds P) (hseen : db.view c = .ok t) :
    P t := by
  unfold Database.view at hseen
  cases hheld : db.held with
  | none =>
    rw [hheld] at hseen
    injection hseen with hseen
    exact hseen ▸ h.1
  | some held =>
    have hworking : P held.working := h.2 held.working (by unfold working?; rw [hheld]; rfl)
    rw [hheld] at hseen
    dsimp only at hseen
    split at hseen
    · injection hseen with hseen
      exact hseen ▸ hworking
    · split at hseen
      · injection hseen with hseen
        exact hseen ▸ h.1
      · cases hseen

/-- A view that succeeds shows the stored alias and the public id that was passed. -/
theorem answer_of_view {v : AliasView}
    (h : (db.call c supply ((ServiceCall.view p n).dialogue reserved)).value = .ok v) :
    ∃ (fresh : Fresh) (a : Alias), (db.answer c fresh (.findAliasByName n)).1 = .ok (some a) ∧
      v = { name := a.name, primary := a.primary, publicId := p } := by
  obtain ⟨es, r, answer, k, hconcl, hanswer⟩ := call_of_ok h
  cases hconcl
  exact ⟨supply.fresh k, _, congrArg Prod.fst hanswer, rfl⟩

/-- Nothing is resolved inside a transaction of one's own. -/
theorem call_resolve_of_inTransaction (h : db.inTransaction c = true) (supply : Supply)
    (reserved : ReservedNames) (n : String) :
    (db.call c supply ((ServiceCall.resolve n).dialogue reserved)).value
      = .error (.repository (.ofEngine .nestedTransaction)) := by
  have hanswer : (db.answer c (supply.fresh 0) (.findByPublicId n)).1
      = .error (.ofEngine .nestedTransaction) := by
    show db.snapshot c (Rows.loadDocument · n) = _
    unfold snapshot
    rw [if_pos h]
  have hresult : Call.result (serve c supply.fresh) supply.blocks (DocumentService.resolve n)
      ((db, 0), 0) = (.error (.repository (.ofEngine .nestedTransaction)), (db, 1), 0) := by
    unfold DocumentService.resolve Call.findByPublicId
    rw [Call.result_logged, Call.result_bind, result_refused hanswer]
    rfl
  exact congrArg (fun o => o.1) hresult

/-- **A view agrees with resolution**, in every state that clients of the library reach, locks or
not.  Where a view succeeds for the name `n` and the caller's document `p`, the name is that of a
stored alias, and the view has `p` for its public id.  A client outside of a transaction who resolves
the name of the view gets the document that owns this alias; it shows the alias under this name, as
primary as the view says, and its public id is that of the view exactly if the caller named the
owner.  Inside a transaction of one's own nothing is resolved. -/
theorem view_agrees_with_resolution (events : List Event)
    (hlibrary : ∀ e ∈ events, e.isLibrary = true) (c : Connection) (reserved : ReservedNames)
    (supply supply' : Supply) (p n : String) (v : AliasView)
    (hview : ((empty.after events).call c supply
      ((ServiceCall.view p n).dialogue reserved)).value = .ok v) :
    let db := empty.after events
    let resolved := db.call c supply' ((ServiceCall.resolve v.name).dialogue reserved)
    v.name = n ∧ v.publicId = p ∧ resolved.state = db ∧
    (db.inTransaction c = false →
      ∃ row d a, db.committed.alias? n = some row ∧ resolved.value = .ok d ∧
        d.publicId = row.document ∧ d.aliasNamed? v.name = some a ∧ a.primary = v.primary ∧
        (d.publicId = v.publicId ↔ row.document = p)) ∧
    (db.inTransaction c = true →
      resolved.value = .error (.repository (.ofEngine .nestedTransaction))) := by
  intro db resolved
  have hidentity : db.Holds Identity := identity_holds hlibrary
  obtain ⟨fresh, a, hanswer, rfl⟩ := answer_of_view hview
  -- whichever tables are read, what is found has the name that was asked for
  obtain ⟨t, hseen, hfound⟩ := read_eq_ok_iff.1 (show db.read c (Rows.findAlias · n) = _ from hanswer)
  rw [(hidentity.view hseen).findAlias_eq] at hfound
  obtain ⟨row, hrow, rfl⟩ := Option.map_eq_some_iff.1 (Except.ok.inj hfound)
  obtain ⟨hmem, rfl⟩ := mem_of_alias? hrow
  cases hinside : db.inTransaction c with
  | true =>
    have hrefused : resolved.value = _ := call_resolve_of_inTransaction hinside supply' reserved _
    have hstate := call_of_error ((ServiceCall.resolve row.name).settled_dialogue reserved) hrefused
    exact ⟨rfl, rfl, hstate, fun h => absurd h (by decide), fun _ => hrefused⟩
  | false =>
    have hreads : db.Reads c t := ⟨hseen, hinside⟩
    have ht := hreads.eq_committed
    subst ht
    have hid : db.committed.Identity := hidentity.1
    obtain ⟨owner, howner, hloaded⟩ := hid.findByAlias_of_alias? hrow
    have hasked : (db.answer c fresh (.findByAlias row.name)).1
        = .ok (some (db.committed.documentOf owner)) := by
      rw [hreads.answer_findByAlias, hloaded]
    have hresult : Call.result (serve c supply'.fresh) supply'.blocks
        (DocumentService.resolve row.name) ((db, 0), 0) = _ :=
      result_resolve_of_alias hid.toClaims hasked
    have hvalue : resolved.value = .ok (db.committed.documentOf owner) :=
      congrArg (fun o => o.1) hresult
    refine ⟨rfl, rfl, congrArg (fun o => o.2.1.1) hresult, fun _ => ?_, fun h => absurd h (by decide)⟩
    refine ⟨row, _, row.decoded, hrow, hvalue, howner,
      hid.aliasNamed?_documentOf hmem howner.symm, rfl, ?_⟩
    show owner.publicId = p ↔ row.document = p
    rw [howner]

/-- Two documents with one alias each. -/
def pairRun : List Event :=
  [.request 1 ⟨⟨1⟩, 5⟩ (.createDocument "d" (some "a")),
   .request 2 ⟨⟨2⟩, 5⟩ (.createDocument "e" (some "z"))]

theorem view_agrees_with_resolution_owner :
    let db := empty.after pairRun
    ∃ d a, (db.call 3 plainSupply ((ServiceCall.resolve "a").dialogue ⟨[]⟩)).value = .ok d ∧
      d.aliasNamed? "a" = some a ∧ a.primary = true ∧ d.publicId = "d" := by
  intro db
  obtain ⟨-, -, -, houtside, -⟩ := view_agrees_with_resolution pairRun (by decide) 3 ⟨[]⟩ plainSupply
    plainSupply "d" "a" ⟨"a", true, "d"⟩ rfl
  obtain ⟨row, d, a, hrow, hvalue, -, halias, hprimary, hagree⟩ := houtside (by decide +kernel)
  have howner : row.document = "d" := by
    have hfound : (db.committed.alias? "a").map (·.document) = some "d" := by decide +kernel
    rw [hrow] at hfound
    exact Option.some.inj hfound
  exact ⟨d, a, hvalue, halias, hprimary, hagree.2 howner⟩

/-- **A caller who names another document is believed**: the alias is shown as one of a document that
does not own it, while resolving it leads to its owner.  And inside a transaction of one's own a view
succeeds where nothing is resolved. -/
theorem view_names_other_document :
    (let db := empty.after pairRun
     (db.call 1 plainSupply ((ServiceCall.view "e" "a").dialogue ⟨[]⟩)).value
        = .ok ⟨"a", true, "e"⟩ ∧
      ∃ d : Document, (db.call 1 plainSupply ((ServiceCall.resolve "a").dialogue ⟨[]⟩)).value = .ok d ∧
        d.publicId = "d") ∧
    (let db := empty.after (pairRun ++ [.begin 1 .immediate])
     (db.call 1 plainSupply ((ServiceCall.view "d" "a").dialogue ⟨[]⟩)).value
        = .ok ⟨"a", true, "d"⟩ ∧
      (db.call 1 plainSupply ((ServiceCall.resolve "a").dialogue ⟨[]⟩)).value
        = .error (.repository (.ofEngine .nestedTransaction))) :=
  ⟨⟨rfl, _, rfl, rfl⟩, rfl, rfl⟩

end Database

end Namebook
