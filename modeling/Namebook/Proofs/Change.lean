/-
  Namebook.Proofs.Change
  ──────────────────────
  **A CHANGE OF THE STORE AS A WHOLE CALL.**

  A call that changes a document is, in the end, one change of the store.  A call that succeeds was
  granted this change; and while no transaction is open, a change that the store grants is the whole
  effect of the call that asks for it.

    • `granted_of_add`, `granted_of_promote` — from the call to the change;
    • `Idle.call_add_granted`, `call_remove_granted`, `call_promote_granted` — and back.
-/
import Namebook.Proofs.Refinement
import Namebook.Proofs.Service.Alone

namespace Namebook

namespace Database

open Tables

variable {db : Database} {c : Connection} {supply : Supply} {reserved : ReservedNames} {p n : String}
  {d : Document} {t : Tables}

/-! ## §1. From the call to the change. -/

/-- An addition that succeeds was granted by the store. -/
theorem granted_of_add
    (h : (db.call c supply ((ServiceCall.add p n).dialogue reserved)).value = .ok d) :
    ∃ fresh t, (Work.createAlias fresh p n).runOn db.committed = (.ok d, t) ∧
      (db.call c supply ((ServiceCall.add p n).dialogue reserved)).state
        = { db with committed := t } := by
  obtain ⟨es, r, a, k, hconcl, hanswer⟩ := call_of_ok h
  cases hconcl
  obtain ⟨t, -, hrun, hstate⟩ := write_of_ok (congrArg Prod.fst hanswer)
  exact ⟨supply.fresh k, t, hrun, (congrArg Prod.snd hanswer).symm.trans hstate⟩

/-- A promotion that succeeds was granted by the store. -/
theorem granted_of_promote
    (h : (db.call c supply ((ServiceCall.promote p n).dialogue reserved)).value = .ok d) :
    ∃ fresh t, (Work.promoteAlias fresh p n).runOn db.committed = (.ok d, t) ∧
      (db.call c supply ((ServiceCall.promote p n).dialogue reserved)).state
        = { db with committed := t } := by
  obtain ⟨es, r, a, k, hconcl, hanswer⟩ := call_of_ok h
  cases hconcl
  obtain ⟨t, -, hrun, hstate⟩ := write_of_ok (congrArg Prod.fst hanswer)
  exact ⟨supply.fresh k, t, hrun, (congrArg Prod.snd hanswer).symm.trans hstate⟩

/-! ## §2. From the change to the call. -/

/-- A name that passes the check of a book is fit and free. -/
theorem free_of_check (h : t.Indexed) (hcheck : t.book.check reserved n = .ok ()) :
    Call.checkName reserved n = .ok () ∧ t.Free n := by
  refine ⟨?_, h.toClaims.free (unclaimed_of_check h hcheck)⟩
  unfold Book.check at hcheck
  unfold Call.checkName
  split at hcheck
  · cases hcheck
  next hblank =>
  split at hcheck
  · cases hcheck
  next hreserved => rw [if_neg hblank, if_neg hreserved]

/-- A name that the check refuses is not added. -/
theorem Idle.call_add_refused {e : ServiceError} (h : db.Idle) (hid : db.committed.Identity)
    (c : Connection) (supply : Supply) (hcheck : db.committed.book.check reserved n = .error e) :
    (db.call c supply (AliasService.add reserved p n)).value = .error e := by
  obtain ⟨k, hchecked⟩ := h.result_checkNew (c := c) (k := 0) (m := 0) hid supply reserved n
  have hresult : Call.result (serve c supply.fresh) supply.blocks (AliasService.add reserved p n)
      ((db, 0), 0) = (.error e, (db, k), 0) := by
    unfold AliasService.add
    rw [Call.result_logged, Call.result_bind, hchecked, hcheck]
  exact (call_of_result hresult).1

theorem Idle.call_add_granted (h : db.Idle) (hid : db.committed.Identity) (c : Connection)
    (hcheck : db.committed.book.check reserved n = .ok ())
    (hrun : (Work.createAlias (supply.fresh 2) p n).runOn db.committed = (.ok d, t)) :
    (db.call c supply (AliasService.add reserved p n)).value = .ok d ∧
      (db.call c supply (AliasService.add reserved p n)).state = { db with committed := t } := by
  obtain ⟨hname, hfree⟩ := free_of_check hid.toIndexed hcheck
  -- the two looks of the check come before the request
  have hanswer : db.answer c (supply.fresh (0 + 2)) (.createAlias p n)
      = (.ok d, { db with committed := t }) := h.write_of_ok hrun
  have hresult := result_add (m := 0) (h.reads c) hname hfree (congrArg Prod.fst hanswer)
  rw [hanswer] at hresult
  exact call_of_result hresult

theorem Idle.call_remove_granted (h : db.Idle) (c : Connection)
    (hrun : (Work.deleteAlias (supply.fresh 0) p n).runOn db.committed = (.ok d, t)) :
    (db.call c supply (AliasService.remove p n)).value = .ok d ∧
      (db.call c supply (AliasService.remove p n)).state = { db with committed := t } := by
  have hanswer : db.answer c (supply.fresh 0) (.deleteAlias p n)
      = (.ok d, { db with committed := t }) := h.write_of_ok hrun
  have hresult := result_remove (k := 0) (m := 0) (congrArg Prod.fst hanswer)
  rw [hanswer] at hresult
  exact call_of_result hresult

theorem Idle.call_promote_granted (h : db.Idle) (c : Connection)
    (hrun : (Work.promoteAlias (supply.fresh 0) p n).runOn db.committed = (.ok d, t)) :
    (db.call c supply (AliasService.promote p n)).value = .ok d ∧
      (db.call c supply (AliasService.promote p n)).state = { db with committed := t } := by
  have hanswer : db.answer c (supply.fresh 0) (.promoteAlias p n)
      = (.ok d, { db with committed := t }) := h.write_of_ok hrun
  have hresult := result_promote (k := 0) (m := 0) (congrArg Prod.fst hanswer)
  rw [hanswer] at hresult
  exact call_of_result hresult

end Database

end Namebook
