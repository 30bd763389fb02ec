/-
  Namebook.Proofs.Service.Alone
  ─────────────────────────────
  **A SUCCESS CAN BE HAD ALONE.**

  What lets a call succeed is its last answer.  A store that gives this answer gives the whole call
  the same value and the same effect if the call runs on it alone: the looks that come before find
  nothing, because the store grants no name that is in use.

    • `call_of_concludes`.
-/
import Namebook.Proofs.Repository.Loading
import Namebook.Proofs.Service.Conclusion
import Namebook.Proofs.Service.Check

namespace Namebook

/-! ## §1. Free names. -/

/-- A name that is neither an alias nor a public id. -/
structure Tables.Free (t : Tables) (n : String) : Prop where
  noAlias : t.alias? n = none
  noDocument : t.document? n = none

namespace Tables

variable {t : Tables} {n : String}

/-- A name that nobody has claimed is free. -/
theorem Claims.free (h : t.Claims) (hfree : ∀ m ∈ t.names, m.name ≠ n) : t.Free n := by
  obtain ⟨hdocs, haliases⟩ := h.unclaimed_iff.1 hfree
  exact ⟨find?_key_eq_none_iff.2 haliases, find?_key_eq_none_iff.2 hdocs⟩

theorem Free.findAlias (h : t.Free n) : Rows.findAlias t n = .ok none := by
  unfold Rows.findAlias
  rw [h.noAlias]

theorem Free.findByAlias (h : t.Free n) : Rows.findByAlias t n = .ok none := by
  unfold Rows.findByAlias
  rw [h.noAlias]

/-- An alias that leads to its document is no public id. -/
theorem Claims.loadDocument_of_alias {d : Document} (h : t.Claims)
    (hfound : Rows.findByAlias t n = .ok (some d)) : Rows.loadDocument t n = .ok none := by
  refine loadDocument_eq_none_iff.2 (find?_key_eq_none_iff.2 fun e he hid => ?_)
  unfold Rows.findByAlias at hfound
  split at hfound
  · cases hfound
  next row hrow =>
  obtain ⟨hmem, hname⟩ := mem_of_alias? hrow
  exact h.publicId_ne_name he hmem (hid.trans hname.symm)

end Tables

/-! ## §2. The checks. -/

namespace Database

open Call (result_of_passed)

variable {db : Database} {c : Connection} {t : Tables} {supply : Supply} {k m : Nat}
  {reserved : ReservedNames} {n : String}

/-- **A free name passes the check of a new alias.** -/
theorem Reads.result_checkNew (h : db.Reads c t) (supply : Supply)
    (hname : Call.checkName reserved n = .ok ()) (hfree : t.Free n) :
    Call.result (serve c supply.fresh) supply.blocks (AliasService.checkNew reserved n)
      ((db, k), m) = (.ok (), (db, k + 2), m) := by
  have halias : db.answer c (supply.fresh k) (.findAliasByName n) = (.ok none, db) := by
    rw [h.answer_findAliasByName, hfree.findAlias]
  have hdoc : db.answer c (supply.fresh (k + 1)) (.findByPublicId n) = (.ok none, db) := by
    rw [h.answer_findByPublicId, Tables.loadDocument_eq_none_iff.2 hfree.noDocument]
  rw [Call.checkNew_eq]
  exact result_of_passed hname (outcome_lookup halias) (outcome_lookup hdoc)

/-- **A free name passes the check of an initial alias.** -/
theorem Reads.result_checkInitial (h : db.Reads c t) (supply : Supply)
    (hname : Call.checkName reserved n = .ok ()) (hfree : t.Free n) :
    Call.result (serve c supply.fresh) supply.blocks (DocumentService.checkInitial reserved n)
      ((db, k), m) = (.ok (), (db, k + 2), m) := by
  have halias : db.answer c (supply.fresh k) (.findByAlias n) = (.ok none, db) := by
    rw [h.answer_findByAlias, hfree.findByAlias]
  have hdoc : db.answer c (supply.fresh (k + 1)) (.findByPublicId n) = (.ok none, db) := by
    rw [h.answer_findByPublicId, Tables.loadDocument_eq_none_iff.2 hfree.noDocument]
  rw [Call.checkInitial_eq]
  exact result_of_passed hname (outcome_lookup halias) (outcome_lookup hdoc)

/-! ## §3. The whole call. -/

variable {fresh : Fresh}

/-- A granted change was made on the committed tables, between transactions. -/
theorem reads_of_granted {r : Request} {v : r.Found} (hchange : r.isChange = true)
    (h : (db.answer c fresh r).1 = .ok v) : db.Reads c db.committed := by
  cases r with
  | createAlias p n => exact .of_free (free_of_write h).1 (free_of_write h).2
  | deleteAlias p n => exact .of_free (free_of_write h).1 (free_of_write h).2
  | promoteAlias p n => exact .of_free (free_of_write h).1 (free_of_write h).2
  | createDocument p initial => exact .of_free (free_of_write h).1 (free_of_write h).2
  | findAliasByName n => cases hchange
  | findByPublicId p => cases hchange
  | findByAlias n => cases hchange

/-- A new alias had a free name. -/
theorem free_of_createAlias {p n : String} {d : Document} (h : db.committed.Claims)
    (hgranted : (db.answer c fresh (.createAlias p n)).1 = .ok d) : db.committed.Free n := by
  obtain ⟨t, -, hrun, -⟩ := write_of_ok hgranted
  exact h.free (Work.createAlias_eq_ok_iff.1 hrun).2.1

/-- An initial alias had a free name. -/
theorem free_of_createDocument {p n : String} {d : Document} (h : db.committed.Claims)
    (hgranted : (db.answer c fresh (.createDocument p (some n))).1 = .ok d) :
    db.committed.Free n := by
  obtain ⟨t, -, hrun, -⟩ := write_of_ok hgranted
  exact h.free (Work.createDocument_some_eq_ok_iff.1 hrun).2.2.2.1

/-- A draw of a service, answered from a supply. -/
theorem result_drawn {α : Type} (f : Block → Call α) :
    Call.result (serve c supply.fresh) supply.blocks
        ((Dialogue.block : Dialogue Block) >>= f) ((db, k), m)
      = Call.result (serve c supply.fresh) supply.blocks (f (supply.blocks m))
        ((db, k), m + 1) := by
  rw [Call.result_bind]
  rfl

/-! ## §4. The six calls. -/

variable {p : String} {d : Document}

/-- A granted creation gives the whole call its value: the looks before it took two requests. -/
theorem result_add (hreads : db.Reads c t) (hname : Call.checkName reserved n = .ok ())
    (hfree : t.Free n)
    (hanswer : (db.answer c (supply.fresh (k + 2)) (.createAlias p n)).1 = .ok d) :
    Call.result (serve c supply.fresh) supply.blocks (AliasService.add reserved p n) ((db, k), m)
      = (.ok d, ((db.answer c (supply.fresh (k + 2)) (.createAlias p n)).2, k + 3), m) := by
  have hcheck := hreads.result_checkNew (k := k) (m := m) supply hname hfree
  unfold AliasService.add
  rw [Call.result_logged, Call.result_bind, hcheck]
  dsimp only
  rw [Call.result_report]
  unfold AliasService.create
  rw [result_asked, hanswer]
  rfl

theorem result_remove (hanswer : (db.answer c (supply.fresh k) (.deleteAlias p n)).1 = .ok d) :
    Call.result (serve c supply.fresh) supply.blocks (AliasService.remove p n) ((db, k), m)
      = (.ok d, ((db.answer c (supply.fresh k) (.deleteAlias p n)).2, k + 1), m) := by
  unfold AliasService.remove
  rw [Call.result_logged, Call.result_report, Call.result_ofAnswer]
  unfold serve
  rw [hanswer]
  rfl

theorem result_promote (hanswer : (db.answer c (supply.fresh k) (.promoteAlias p n)).1 = .ok d) :
    Call.result (serve c supply.fresh) supply.blocks (AliasService.promote p n) ((db, k), m)
      = (.ok d, ((db.answer c (supply.fresh k) (.promoteAlias p n)).2, k + 1), m) := by
  unfold AliasService.promote
  rw [Call.result_logged, Call.result_report]
  -- the first attempt is granted
  show Call.result _ _ (AliasService.tryPromote p n _) _ = _
  unfold AliasService.tryPromote
  rw [result_asked, hanswer]
  rfl

/-- What a look-up finds does not depend on the id and the time at hand. -/
theorem answer_of_found {r : Request} {v : r.Found} (hlookup : r.isChange = false)
    (hanswer : (db.answer c fresh r).1 = .ok v) (other : Fresh) :
    db.answer c other r = (.ok v, db) := by
  cases r with
  | findAliasByName n => exact Prod.ext hanswer rfl
  | findByPublicId p => exact Prod.ext hanswer rfl
  | findByAlias n => exact Prod.ext hanswer rfl
  | _ => cases hlookup

theorem result_view {a : Alias}
    (hanswer : (db.answer c fresh (.findAliasByName n)).1 = .ok (some a)) :
    Call.result (serve c supply.fresh) supply.blocks (AliasService.view p n) ((db, k), m)
      = (.ok { name := a.name, primary := a.primary, publicId := p }, (db, k + 1), m) := by
  unfold AliasService.view Call.findAliasByName
  rw [Call.result_logged, Call.result_bind, result_lookup (answer_of_found rfl hanswer _)]
  rfl

theorem result_resolve_of_id
    (hanswer : (db.answer c fresh (.findByPublicId n)).1 = .ok (some d)) :
    Call.result (serve c supply.fresh) supply.blocks (DocumentService.resolve n) ((db, k), m)
      = (.ok d, (db, k + 1), m) := by
  unfold DocumentService.resolve Call.findByPublicId
  rw [Call.result_logged, Call.result_bind, result_lookup (answer_of_found rfl hanswer _)]
  rfl

theorem result_resolve_of_alias (h : db.committed.Claims)
    (hanswer : (db.answer c fresh (.findByAlias n)).1 = .ok (some d)) :
    Call.result (serve c supply.fresh) supply.blocks (DocumentService.resolve n) ((db, k), m)
      = (.ok d, (db, k + 2), m) := by
  have hsnapshot : db.snapshot c (Rows.findByAlias · n) = .ok (some d) := hanswer
  obtain ⟨t, hreads, hfound⟩ := Reads.of_snapshot hsnapshot
  rw [← hreads.eq_committed] at h
  have hmissing : db.answer c (supply.fresh k) (.findByPublicId n) = (.ok none, db) := by
    rw [hreads.answer_findByPublicId, h.loadDocument_of_alias hfound]
  unfold DocumentService.resolve Call.findByPublicId Call.findByAlias
  rw [Call.result_logged, Call.result_bind, result_lookup hmissing]
  dsimp only
  rw [Call.result_bind, result_lookup (answer_of_found rfl hanswer _)]
  rfl

/-- The first draw is granted. -/
theorem result_createFrom {initial : Option String}
    (hanswer : (db.answer c (supply.fresh k)
      (.createDocument (PublicId.encode (supply.blocks m)) initial)).1 = .ok d)
    (attempt left : Nat) :
    Call.result (serve c supply.fresh) supply.blocks
        (DocumentService.createFrom initial attempt (left + 1)) ((db, k), m)
      = (.ok d, ((db.answer c (supply.fresh k)
          (.createDocument (PublicId.encode (supply.blocks m)) initial)).2, k + 1), m + 1) := by
  unfold DocumentService.createFrom
  rw [result_drawn]
  dsimp only
  generalize PublicId.encode (supply.blocks m) = publicId at hanswer ⊢
  rw [result_asked, hanswer]
  rfl

theorem result_create {initial : Option String} (h : db.committed.Claims)
    (hinitial : ∀ n ∈ initial, Call.checkName reserved n = .ok ())
    (hfresh : ∀ k, supply.fresh k = fresh)
    (hanswer : (db.answer c fresh
      (.createDocument (PublicId.encode (supply.blocks 0)) initial)).1 = .ok d) :
    ∃ k, Call.result (serve c supply.fresh) supply.blocks (DocumentService.create reserved initial)
        ((db, 0), 0)
      = (.ok d, ((db.answer c fresh
          (.createDocument (PublicId.encode (supply.blocks 0)) initial)).2, k), 1) := by
  have hreads := reads_of_granted rfl hanswer
  unfold DocumentService.create
  cases initial with
  | none =>
    rw [← hfresh 0] at hanswer ⊢
    exact ⟨1, result_createFrom hanswer 1 2⟩
  | some n =>
    have hcheck := hreads.result_checkInitial (k := 0) (m := 0) supply
      (hinitial n rfl) (free_of_createDocument h hanswer)
    refine ⟨3, ?_⟩
    dsimp only
    rw [Call.result_bind, Call.result_logged, hcheck]
    rw [← hfresh 2] at hanswer ⊢
    exact result_createFrom hanswer 1 2

/-- **The answer that decides gives the whole call its value and its effect.**  The store has its
name index in step, the call runs on it alone with the id and the time of that answer, and its first
draw is the block that was drawn last. -/
theorem call_of_concludes {s : ServiceCall} {es : List Exchange} {r : Request} {a : r.Answer}
    {v : s.Found} (h : db.committed.Claims) (hconcl : s.Concludes reserved es r a v)
    (hanswer : (db.answer c fresh r).1 = a) (hfresh : ∀ k, supply.fresh k = fresh)
    (hblock : ∀ b ∈ lastDrawn? es, supply.blocks 0 = b) :
    let alone := db.call c supply (s.dialogue reserved)
    alone.value = .ok v ∧ alone.state = (db.answer c fresh r).2 ∧ alone.draws ≤ 1 := by
  have hresult : ∃ k m, m ≤ 1 ∧
      Call.result (serve c supply.fresh) supply.blocks (s.dialogue reserved) ((db, 0), 0)
        = (.ok v, ((db.answer c fresh r).2, k), m) := by
    cases hconcl with
    | add hname =>
      have hreads := reads_of_granted rfl hanswer
      have hfree := free_of_createAlias h hanswer
      rw [← hfresh 2] at hanswer ⊢
      exact ⟨3, 0, Nat.zero_le 1, result_add hreads hname hfree hanswer⟩
    | remove =>
      rw [← hfresh 0] at hanswer ⊢
      exact ⟨1, 0, Nat.zero_le 1, result_remove hanswer⟩
    | promote =>
      rw [← hfresh 0] at hanswer ⊢
      exact ⟨1, 0, Nat.zero_le 1, result_promote hanswer⟩
    | view => exact ⟨1, 0, Nat.zero_le 1, result_view hanswer⟩
    | resolveId => exact ⟨1, 0, Nat.zero_le 1, result_resolve_of_id hanswer⟩
    | resolveAlias => exact ⟨2, 0, Nat.zero_le 1, result_resolve_of_alias h hanswer⟩
    | @create initial es b d hinitial hlast =>
      have hb : supply.blocks 0 = b := hblock b hlast
      subst hb
      obtain ⟨k, hcreate⟩ := result_create h hinitial hfresh hanswer
      exact ⟨k, 1, Nat.le_refl 1, hcreate⟩
  obtain ⟨k, m, hm, hresult⟩ := hresult
  have hdraws : (db.call c supply (s.dialogue reserved)).draws = m :=
    congrArg (fun o => o.2.2) hresult
  exact ⟨congrArg (fun o => o.1) hresult, congrArg (fun o => o.2.1.1) hresult, hdraws ▸ hm⟩

end Database

end Namebook
