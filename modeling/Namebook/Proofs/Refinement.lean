/-
  Namebook.Proofs.Refinement
  ──────────────────────────
  **SERVICES DO WHAT THE BOOK SAYS.**

  In every state that clients of the library reach, while no transaction is open, each service call
  answers what its function on books answers, and leaves the book that this function leaves:

    • `calls_follow_book`.
-/
import Namebook.Proofs.Identity
import Namebook.Proofs.Repository.Reply
import Namebook.Proofs.Service.Check

namespace Namebook

/-! ## §1. Errors. -/

namespace Book

theorem append_error {b : Book} {p n : String} {e : ServiceError}
    (h : (b.append p n).1 = .error e) : e = .documentNotFound p := by
  unfold append at h
  split at h
  · injection h with h
    exact h.symm
  · cases h

theorem promote_error {b : Book} {p n : String} {e : ServiceError}
    (h : (b.promote p n).1 = .error e) : e = .documentNotFound p ∨ e = .aliasNotFound n := by
  unfold promote at h
  split at h
  · injection h with h
    exact Or.inl h.symm
  · split at h
    · injection h with h
      exact Or.inr h.symm
    · split at h
      · cases h
      · cases h

end Book

/-- Only failures of the store are worth another attempt, and those are passed on as they are. -/
theorem RepositoryError.ofRepository_of_isBusy {e : RepositoryError} (h : e.isBusy = true) :
    ServiceError.ofRepository e = .repository e := by
  cases e with
  | store e => rfl
  | _ => cases h

/-! ## §2. Requests without any transaction open. -/

namespace Database

open Tables

/-- No transaction is open. -/
structure Idle (db : Database) : Prop where
  held : db.held = none
  readers : db.readers = []

variable {db : Database} {c : Connection} {fresh : Fresh}

/-- Where no transaction is open, everybody reads the committed tables. -/
theorem Idle.reads (h : db.Idle) (c : Connection) : db.Reads c db.committed :=
  .of_free h.held (by rw [h.readers]; exact List.not_mem_nil)

/-- Where no transaction is open, work that succeeds is committed. -/
theorem Idle.write_of_ok {α : Type} {w : Work α} {a : α} {t : Tables} (h : db.Idle)
    (hrun : w.runOn db.committed = (.ok a, t)) :
    db.write c w = (.ok a, { db with committed := t }) := by
  rw [write_of_free h.held h.readers, hrun]

/-- Work that fails is not. -/
theorem Idle.write_of_error {α : Type} {w : Work α} {e : RepositoryError} {t : Tables} (h : db.Idle)
    (hrun : w.runOn db.committed = (.error e, t)) : db.write c w = (.error e, db) := by
  rw [write_of_free h.held h.readers, hrun]

theorem Idle.answer_findAliasByName (h : db.Idle) (hid : db.committed.Identity) (n : String) :
    db.answer c fresh (.findAliasByName n)
      = (.ok ((db.committed.alias? n).map AliasRow.decoded), db) := by
  rw [(h.reads c).answer_findAliasByName, hid.findAlias_eq]

theorem Idle.answer_findByPublicId (h : db.Idle) (hid : db.committed.Identity) (p : String) :
    db.answer c fresh (.findByPublicId p)
      = (.ok ((db.committed.document? p).map db.committed.documentOf), db) := by
  rw [(h.reads c).answer_findByPublicId, hid.loadDocument_eq]

theorem Idle.answer_findByAlias (h : db.Idle) (hid : db.committed.Identity) (n : String) :
    db.answer c fresh (.findByAlias n)
      = (.ok ((db.committed.alias? n).bind fun a =>
          (db.committed.document? a.document).map db.committed.documentOf), db) := by
  rw [(h.reads c).answer_findByAlias, hid.findByAlias_eq]

/-- What clients are told of an answer, and the book that is kept. -/
def reply (answer : Except ServiceError Document) (db : Database) : Book.Reply :=
  (answer.map Document.entry, db.committed.book)

/-- A change is told as its work has it. -/
theorem Idle.reply_write (h : db.Idle) (w : Work Document) :
    reply ((db.write c w).1.mapError ServiceError.ofRepository) (db.write c w).2
      = db.committed.told (w.runOn db.committed) := by
  rw [write_of_free h.held h.readers]
  cases w.runOn db.committed with
  | mk r t =>
    cases r with
    | ok d => rfl
    | error e => rfl

/-! ## §3. Calls. -/

variable {supply : Supply} {k m : Nat}

/-- The verdict of a book is that of its tables. -/
theorem check_book {t : Tables} (h : t.Indexed) (reserved : ReservedNames) (n : String) :
    t.book.check reserved n
      = Call.verdict reserved n (t.alias? n).isSome (t.document? n).isSome := by
  unfold Book.check Call.verdict
  rw [isSome_owner_book h, isSome_find_book]

/-- The check of a new name. -/
theorem Idle.result_checkNew (h : db.Idle) (hid : db.committed.Identity)
    (supply : Supply) (reserved : ReservedNames) (n : String) :
    ∃ k', Call.result (serve c supply.fresh) supply.blocks (AliasService.checkNew reserved n)
      ((db, k), m) = (db.committed.book.check reserved n, (db, k'), m) := by
  obtain ⟨k', hchecked⟩ := outcome_checked reserved n
    (outcome_lookup (k := k) (h.answer_findAliasByName hid n))
    (outcome_lookup (h.answer_findByPublicId hid n))
  rw [Option.isSome_map, Option.isSome_map, ← check_book hid.toIndexed] at hchecked
  rw [Call.checkNew_eq]
  exact ⟨k', Call.result_of_outcome hchecked⟩

/-- What clients are told of a result. -/
def replyOf (o : Except ServiceError Document × (Database × Nat) × Nat) : Book.Reply :=
  reply o.1 o.2.1.1

/-- A call whose result is the answer of a change is told as the book has it. -/
theorem Idle.replyOf_change (h : db.Idle) {w : Work Document} {b : Book.Reply}
    {o : Except ServiceError Document × (Database × Nat) × Nat}
    (hreply : db.committed.told (w.runOn db.committed) = b)
    (ho : (∀ e, (db.write c w).1 = .error e → b.1 = .error (ServiceError.ofRepository e)) →
      o = ((db.write c w).1.mapError ServiceError.ofRepository, ((db.write c w).2, k), m)) :
    replyOf o = b := by
  rw [← h.reply_write (c := c)] at hreply
  subst hreply
  have herror : ∀ e, (db.write c w).1 = .error e →
      (reply ((db.write c w).1.mapError ServiceError.ofRepository) (db.write c w).2).1
        = .error (ServiceError.ofRepository e) := by
    intro e he
    rw [he]
    rfl
  rw [ho herror]
  rfl

/-- **The creation of an alias**, once its name is known to be free. -/
theorem Idle.replyOf_create (h : db.Idle) (hid : db.committed.Identity)
    (hlimits : db.committed.BelowLimits) {p n : String}
    (hfree : ∀ e ∈ db.committed.names, e.name ≠ n)
    (hfresh : ∀ k, ∀ a ∈ db.committed.aliases, a.id ≠ (supply.fresh k).id.render) :
    replyOf (Call.result (serve c supply.fresh) supply.blocks (AliasService.create p n)
      ((db, k), m)) = db.committed.book.append p n := by
  refine h.replyOf_change (c := c) (k := k + 1) (m := m)
    (createAlias_reply (p := p) hid hlimits hfree (hfresh k)) fun herror => ?_
  have hasked : db.answer c (supply.fresh k) (.createAlias p n)
      = db.write c (Work.createAlias (supply.fresh k) p n) := rfl
  unfold AliasService.create
  rw [result_asked, hasked]
  cases hanswer : (db.write c (Work.createAlias (supply.fresh k) p n)).1 with
  | ok d => rfl
  | error e =>
    have hmissing := Book.append_error (herror e hanswer)
    cases e with
    | nameTaken name => cases hmissing
    | _ => rfl

/-- A name that passes the check is claimed by nobody. -/
theorem unclaimed_of_check {t : Tables} (h : t.Indexed) {reserved : ReservedNames} {n : String}
    (hcheck : t.book.check reserved n = .ok ()) : ∀ e ∈ t.names, e.name ≠ n := by
  rw [check_book h] at hcheck
  unfold Call.verdict at hcheck
  split at hcheck
  · cases hcheck
  split at hcheck
  · cases hcheck
  split at hcheck
  · cases hcheck
  next halias =>
  split at hcheck
  · cases hcheck
  next hdoc =>
  rw [Option.not_isSome_iff_eq_none] at halias hdoc
  exact h.unclaimed_iff.2 ⟨find?_key_eq_none_iff.1 hdoc, find?_key_eq_none_iff.1 halias⟩

theorem Idle.replyOf_add (h : db.Idle) (hid : db.committed.Identity)
    (hlimits : db.committed.BelowLimits) (reserved : ReservedNames) (p n : String)
    (hfresh : ∀ k, ∀ a ∈ db.committed.aliases, a.id ≠ (supply.fresh k).id.render) :
    replyOf (Call.result (serve c supply.fresh) supply.blocks (AliasService.add reserved p n)
      ((db, k), m)) = db.committed.book.add reserved p n := by
  unfold AliasService.add Book.add
  rw [Call.result_logged, Call.result_bind]
  obtain ⟨k', hresult⟩ := h.result_checkNew (c := c) (k := k) (m := m) hid supply
    reserved n
  rw [hresult]
  cases hcheck : db.committed.book.check reserved n with
  | error e => rfl
  | ok u =>
    dsimp only
    rw [Call.result_report]
    exact h.replyOf_create hid hlimits (unclaimed_of_check hid.toIndexed hcheck) hfresh

theorem Idle.replyOf_remove (h : db.Idle) (hid : db.committed.Identity)
    (hlimits : db.committed.BelowLimits) (p n : String) :
    replyOf (Call.result (serve c supply.fresh) supply.blocks (AliasService.remove p n)
      ((db, k), m)) = db.committed.book.remove p n := by
  refine h.replyOf_change (c := c) (k := k + 1) (m := m)
    (deleteAlias_reply hid hlimits (supply.fresh k) p n) fun _ => ?_
  unfold AliasService.remove
  rw [Call.result_logged, Call.result_report, Call.result_ofAnswer]
  rfl

/-- An attempt at a promotion that meets no lock is the last one. -/
theorem result_tryPromote {p n : String} (onBusy : RepositoryError → Call Document)
    (hfree : ∀ e, (db.write c (Work.promoteAlias (supply.fresh k) p n)).1 = .error e →
      e.isBusy = false) :
    Call.result (serve c supply.fresh) supply.blocks (AliasService.tryPromote p n onBusy)
        ((db, k), m)
      = ((db.write c (Work.promoteAlias (supply.fresh k) p n)).1.mapError ServiceError.ofRepository,
        ((db.write c (Work.promoteAlias (supply.fresh k) p n)).2, k + 1), m) := by
  have hasked : db.answer c (supply.fresh k) (.promoteAlias p n)
      = db.write c (Work.promoteAlias (supply.fresh k) p n) := rfl
  unfold AliasService.tryPromote
  rw [result_asked, hasked]
  cases hanswer : (db.write c (Work.promoteAlias (supply.fresh k) p n)).1 with
  | ok d => rfl
  | error e =>
    dsimp only
    rw [hfree e hanswer]
    rfl

theorem Idle.replyOf_promote (h : db.Idle) (hid : db.committed.Identity)
    (hlimits : db.committed.BelowLimits) (p n : String) :
    replyOf (Call.result (serve c supply.fresh) supply.blocks (AliasService.promote p n)
      ((db, k), m)) = db.committed.book.promote p n := by
  refine h.replyOf_change (c := c) (k := k + 1) (m := m)
    (promoteAlias_reply hid hlimits (supply.fresh k) p n) fun herror => ?_
  unfold AliasService.promote
  rw [Call.result_logged, Call.result_report]
  refine result_tryPromote _ ?_
  -- what the book answers is no lock
  intro e hanswer
  rw [Bool.eq_false_iff]
  intro hbusy
  have hpassed := herror e hanswer
  rw [RepositoryError.ofRepository_of_isBusy hbusy] at hpassed
  rcases Book.promote_error hpassed with hmissing | hmissing <;> cases hmissing

/-- What is found under a name is shown with the public id that was passed. -/
theorem Idle.result_view (h : db.Idle) (hid : db.committed.Identity) (supply : Supply)
    (p n : String) :
    Call.result (serve c supply.fresh) supply.blocks (AliasService.view p n) ((db, k), m)
      = (db.committed.book.view p n, (db, k + 1), m) := by
  unfold AliasService.view Call.findAliasByName Book.view
  rw [Call.result_logged, Call.result_bind, result_lookup (h.answer_findAliasByName hid n),
    owner_book hid.toClaims]
  cases ha : db.committed.alias? n with
  | none => rfl
  | some a =>
    obtain ⟨hmem, hname⟩ := mem_of_alias? ha
    obtain ⟨row, hrow, hdoc⟩ := hasDocument_iff.1 (hid.owners a hmem)
    have hfound : db.committed.document? a.document = some row :=
      hid.document?_eq_some_iff.2 ⟨hrow, hdoc⟩
    have hprimary : ((db.committed.entry row).primary == some n) = (a.flag == 1) := by
      rw [Bool.eq_iff_iff, beq_iff_eq, beq_iff_eq, ← hname]
      exact hid.primary_iff hmem hdoc.symm
    dsimp only [Option.bind_some]
    rw [hfound]
    dsimp only [Option.map_some]
    rw [hprimary, ← hname]
    rfl

theorem Idle.result_resolve (h : db.Idle) (hid : db.committed.Identity) (supply : Supply)
    (n : String) :
    ∃ o k', Call.result (serve c supply.fresh) supply.blocks (DocumentService.resolve n)
        ((db, k), m) = (o, (db, k'), m) ∧
      o.map Document.entry = db.committed.book.resolve n := by
  unfold DocumentService.resolve Call.findByPublicId Call.findByAlias Book.resolve
  rw [Call.result_logged, Call.result_bind, result_lookup (h.answer_findByPublicId hid n),
    find_book]
  cases hrow : db.committed.document? n with
  | some row =>
    exact ⟨.ok (db.committed.documentOf row), k + 1, rfl,
      congrArg Except.ok (entry_documentOf db.committed row)⟩
  | none =>
    dsimp only [Option.map_none]
    rw [Call.result_bind, result_lookup (h.answer_findByAlias hid n), owner_book hid.toClaims]
    cases db.committed.alias? n with
    | none => exact ⟨.error (.documentNotFound n), k + 2, rfl, rfl⟩
    | some a =>
      dsimp only [Option.bind_some]
      cases db.committed.document? a.document with
      | none => exact ⟨.error (.documentNotFound n), k + 2, rfl, rfl⟩
      | some row =>
        exact ⟨.ok (db.committed.documentOf row), k + 2, rfl,
          congrArg Except.ok (entry_documentOf db.committed row)⟩

/-! ## §4. Every reachable state. -/

/-- What clients are told of a call, and the book that is kept. -/
def callReply (o : Dialogue.Outcome (Except ServiceError Document) Database) : Book.Reply :=
  (o.value.map Document.entry, o.state.committed.book)

/-- **Services do what the book says.**  Clients of the library have acted in any order, and no
transaction is open now; new alias ids are fresh, and no version or position is at its limit.  Then
each call of a service, with any document and any name, is answered as its function on books says,
and leaves the book that this function leaves. -/
theorem calls_follow_book (events : List Event) (hlibrary : ∀ e ∈ events, e.isLibrary = true)
    (hheld : (empty.after events).held = none) (hreaders : (empty.after events).readers = [])
    (hversions : ∀ d ∈ (empty.after events).committed.documents,
      d.version.toInt ≠ Integer.greatest)
    (hpositions : ∀ a ∈ (empty.after events).committed.aliases,
      a.position.toInt ≠ Integer.greatest)
    (c : Connection) (reserved : ReservedNames) (supply : Supply)
    (hfresh : ∀ k, ∀ a ∈ (empty.after events).committed.aliases,
      a.id ≠ (supply.fresh k).id.render)
    (d n : String) :
    let db := empty.after events
    let b := db.committed.book
    let viewed := db.call c supply ((ServiceCall.view d n).dialogue reserved)
    let resolved := db.call c supply ((ServiceCall.resolve n).dialogue reserved)
    callReply (db.call c supply ((ServiceCall.add d n).dialogue reserved)) = b.add reserved d n ∧
    callReply (db.call c supply ((ServiceCall.remove d n).dialogue reserved)) = b.remove d n ∧
    callReply (db.call c supply ((ServiceCall.promote d n).dialogue reserved)) = b.promote d n ∧
    (viewed.value = b.view d n ∧ viewed.state.committed.book = b) ∧
    (resolved.value.map Document.entry = b.resolve n ∧ resolved.state.committed.book = b) := by
  intro db b viewed resolved
  have hidle : db.Idle := ⟨hheld, hreaders⟩
  have hid : db.committed.Identity := (identity_holds hlibrary).1
  have hlimits : db.committed.BelowLimits := ⟨hversions, hpositions⟩
  refine ⟨?_, ?_, ?_, ?_, ?_⟩
  · exact hidle.replyOf_add (k := 0) (m := 0) hid hlimits reserved d n hfresh
  · exact hidle.replyOf_remove (k := 0) (m := 0) hid hlimits d n
  · exact hidle.replyOf_promote (k := 0) (m := 0) hid hlimits d n
  · have hresult := hidle.result_view (c := c) (k := 0) (m := 0) hid supply d n
    have hstate : viewed.state = db := congrArg (fun o => o.2.1.1) hresult
    refine ⟨congrArg (fun o => o.1) hresult, ?_⟩
    rw [hstate]
  · obtain ⟨o, k', hresult, ho⟩ := hidle.result_resolve (c := c) (k := 0) (m := 0) hid supply n
    have hvalue : resolved.value = o := congrArg (fun o => o.1) hresult
    have hstate : resolved.state = db := congrArg (fun o => o.2.1.1) hresult
    constructor
    · rw [hvalue]
      exact ho
    · rw [hstate]

/-- In the store that a run of services leaves, the kept document gets a second alias. -/
theorem calls_follow_book_serviceRun :
    (callReply ((empty.after serviceRun).call 4
      { plainSupply with fresh := fun _ => ⟨⟨99⟩, 7⟩ }
      ((ServiceCall.add "00000000000000000000000000" "c").dialogue ⟨["admin"]⟩))).2
      = [⟨"00000000000000000000000000", 4, ["b", "c"], some "b"⟩] := by
  have hstate : (empty.after serviceRun).held = none ∧ (empty.after serviceRun).readers = [] ∧
      (∀ d ∈ (empty.after serviceRun).committed.documents,
        d.version.toInt ≠ Integer.greatest) ∧
      (∀ a ∈ (empty.after serviceRun).committed.aliases,
        a.position.toInt ≠ Integer.greatest ∧ a.id ≠ (⟨99⟩ : Uuid).render) := by
    decide +kernel
  obtain ⟨hheld, hreaders, hversions, haliases⟩ := hstate
  have hreplies := calls_follow_book serviceRun (by decide) hheld hreaders hversions
    (fun a ha => (haliases a ha).1) 4 ⟨["admin"]⟩
    { plainSupply with fresh := fun _ => ⟨⟨99⟩, 7⟩ } (fun _ a ha => (haliases a ha).2)
    "00000000000000000000000000" "c"
  rw [hreplies.1]
  decide +kernel

end Database

end Namebook
