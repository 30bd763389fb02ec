/-
  Namebook.Proofs.Version
  ───────────────────────
  **THE VERSION TELLS EVERY CHANGE — between any two moments of a run.**

  A client that has seen a document and sees the same version again has missed nothing: every step
  that changes a document's rows counts its version up, and no other step touches them.

    • `Tables.Since` — what became of a document between two states of the tables;
    • `since_granted`, `since_deleteDocument` — one write;
    • `Database.granted_or_steps`, `drafted_of_moves` — what clients of the library can commit;
    • `Orderly.apply`, `Orderly.after` — one event, and a run;
    • `Database.version_tells_changes` — any two calls of a run that return the same document.
-/
import Namebook.Proofs.Identity
import Namebook.Proofs.Repository.Frame
import Mathlib.Data.List.Infix

namespace Namebook

namespace Tables

variable {s t t' : Tables} {p : String} {fresh : Fresh} {d : Document}

/-! ## §1. Between two states. -/

/-- **A document that is stored in both states has a greater version in the later one, or is the same**:
its row, with both times, and its alias rows. -/
def Since (p : String) (t t' : Tables) : Prop :=
  ∃ row row', t.document? p = some row ∧ t'.document? p = some row' ∧
    (row.version < row'.version ∨ row' = row ∧ t'.aliasesOf p = t.aliasesOf p)

theorem Since.refl (h : t.hasDocument p = true) : Since p t t := by
  cases hrow : t.document? p with
  | none =>
    rw [hasDocument_of_none hrow] at h
    cases h
  | some row => exact ⟨row, row, hrow, hrow, Or.inr ⟨rfl, rfl⟩⟩

theorem Since.trans (h : Since p s t) (h' : Since p t t') : Since p s t' := by
  obtain ⟨row₁, row₂, h₁, h₂, hstep⟩ := h
  obtain ⟨row₂', row₃, h₂', h₃, hstep'⟩ := h'
  cases h₂.symm.trans h₂'
  refine ⟨row₁, row₃, h₁, h₃, ?_⟩
  rcases hstep with hlt | ⟨rfl, hrows⟩
  · rcases hstep' with hlt' | ⟨rfl, -⟩
    · exact Or.inl (Int64.lt_trans hlt hlt')
    · exact Or.inl hlt
  · rcases hstep' with hlt' | ⟨rfl, hrows'⟩
    · exact Or.inl hlt'
    · exact Or.inr ⟨rfl, hrows'.trans hrows⟩

/-- A document whose rows were not touched. -/
theorem Since.of_eq (h : t.hasDocument p = true) (hrow : t'.document? p = t.document? p)
    (hrows : t'.aliasesOf p = t.aliasesOf p) : Since p t t' := by
  obtain ⟨row, -, hfound, -⟩ := Since.refl h
  exact ⟨row, row, hfound, hrow.trans hfound, Or.inr ⟨rfl, hrows⟩⟩

/-- A document whose change was counted. -/
theorem Since.of_counted {row : DocumentRow} {version now : Int64} (hrow : t.document? p = some row)
    (hsame : t'.document? p = t.document? p) (hversion : version.toInt = row.version.toInt + 1) :
    Since p t (t'.touched p now version) := by
  refine ⟨row, { row with version, updatedAt := now }, hrow, ?_, Or.inl ?_⟩
  · rw [document?_touched_eq, hsame, hrow, Option.map_some, if_pos rfl]
  · show row.version < version
    rw [Int64.lt_iff_toInt_lt]
    omega

/-- **What loading shows**: versions never fall, and one version is one document. -/
theorem Since.loaded {d' : Document} (h : Since p t t')
    (hload : Rows.loadDocument t p = .ok (some d)) (hload' : Rows.loadDocument t' p = .ok (some d')) :
    d.version ≤ d'.version ∧ (d.version = d'.version → d = d') := by
  obtain ⟨row, row', hrow, hrow', hstep⟩ := h
  obtain ⟨r, hr, hassemble, -⟩ := loadDocument_eq_some_iff.1 hload
  obtain ⟨r', hr', hassemble', -⟩ := loadDocument_eq_some_iff.1 hload'
  cases hrow.symm.trans hr
  cases hrow'.symm.trans hr'
  have hversion := (Rows.assemble_eq_ok_iff.1 hassemble).2
  have hversion' := (Rows.assemble_eq_ok_iff.1 hassemble').2
  rcases hstep with hlt | ⟨rfl, hrows⟩
  · rw [hversion, hversion'] at hlt
    exact ⟨Int64.le_of_lt hlt, fun heq => absurd (heq ▸ hlt) Int64.lt_irrefl⟩
  · -- the same rows are put together to the same document
    have hid := (mem_of_document? hrow').2
    have hsame : Rows.assemble t' row' = Rows.assemble t row' := by
      unfold Rows.assemble
      rw [hid, hrows]
    cases hsame.symm.trans hassemble' |>.symm.trans hassemble
    exact ⟨Int64.le_refl _, fun _ => rfl⟩

/-! ## §2. One write. -/

/-- **A granted request counts what it changes.** -/
theorem Identity.since_granted {r : Request} {w : Work Document} (h : t.Identity)
    (hwork : r.work? fresh = some w) (hrun : w.runOn t = (.ok d, t'))
    (hstored : t.hasDocument p = true) : Since p t t' := by
  by_cases hp : p = d.publicId
  · -- the document of the request
    have htarget := (Request.loads_of_granted hwork hrun).1
    subst hp
    cases r with
    | createAlias q n =>
      cases hwork
      cases htarget
      obtain ⟨-, -, position, row, version, -, -, hrow, hversion, rfl, -⟩ :=
        Work.createAlias_eq_ok_iff.1 hrun
      exact Since.of_counted hrow rfl hversion
    | deleteAlias q n =>
      cases hwork
      cases htarget
      obtain ⟨-, a, row, version, -, -, hrow, hversion, rfl, -⟩ := Work.deleteAlias_eq_ok_iff.1 hrun
      exact Since.of_counted hrow rfl hversion
    | promoteAlias q n =>
      cases hwork
      cases htarget
      obtain ⟨-, a, -, -, hcase⟩ := Work.promoteAlias_eq_ok_iff.1 hrun
      rcases hcase with ⟨-, rfl⟩ | ⟨-, row, version, -, hrow, hversion, rfl⟩
      · exact Since.refl hstored
      · exact Since.of_counted hrow rfl hversion
    | createDocument q initial =>
      cases hwork
      cases htarget
      -- nothing is created that is stored
      have hfree : ∀ e ∈ t.documents, e.publicId ≠ d.publicId := by
        cases initial with
        | none => exact (Work.createDocument_none_eq_ok_iff.1 hrun).1
        | some n => exact (Work.createDocument_some_eq_ok_iff.1 hrun).1
      obtain ⟨e, he, hid⟩ := hasDocument_iff.1 hstored
      exact absurd hid (hfree e he)
    | _ => cases hwork
  · have hspares := h.canonical.spares hwork hrun
    exact Since.of_eq hstored (hspares.document p hp) (hspares.aliases p hp)

/-- **A document that a deletion leaves is left as it was.** -/
theorem since_deleteDocument {q : String}
    (hstored : (t.deleteDocument Rules.all q).hasDocument p = true) :
    t.hasDocument p = true ∧ Since p t (t.deleteDocument Rules.all q) := by
  rw [deleteDocument_eq] at hstored ⊢
  by_cases hq : t.hasDocument q = true
  · rw [if_pos hq] at hstored ⊢
    obtain ⟨e, he, hid⟩ := hasDocument_iff.1 hstored
    obtain ⟨hmem, hne⟩ := List.mem_filter.1 he
    have hpq : p ≠ q := by
      rw [← hid]
      exact bne_iff_ne.1 hne
    have hbefore : t.hasDocument p = true := hasDocument_iff.2 ⟨e, hmem, hid⟩
    refine ⟨hbefore, Since.of_eq hbefore ?_ ?_⟩
    · show (t.documents.filter (·.publicId != q)).find? _ = t.documents.find? _
      rw [List.find?_filter]
      congr 1
      funext row
      by_cases hrow : row.publicId = p
      · simp [hrow, hpq]
      · simp [hrow]
    · exact aliasesOf_withoutAliases_of_ne (fun a _ hgone => beq_iff_eq.1 hgone) hpq
  · rw [if_neg hq] at hstored ⊢
    exact ⟨hstored, Since.refl hstored⟩

end Tables

/-! ## §3. Runs. -/

/-- The document that an event returns. -/
def Event.document? : Event → Database → Option Document
  | call c reserved supply s, db =>
    (db.call c supply (s.dialogue reserved)).value.toOption.bind s.document?
  | request c fresh r, db => r.document? (db.answer c fresh r).1
  | _, _ => none

namespace Database

open Tables

variable {db : Database} {p : String}

/-- A document that an event returns is loaded from what is committed then. -/
theorem loads_of_document? {e : Event} {d : Document} (h : db.committed.Unique)
    (hd : e.document? db = some d) :
    Rows.loadDocument (e.apply db).committed d.publicId = .ok (some d) := by
  cases e with
  | call c reserved supply s =>
    obtain ⟨v, hv, hd⟩ := Option.bind_eq_some_iff.1 hd
    cases hvalue : (db.call c supply (s.dialogue reserved)).value with
    | error e => rw [hvalue] at hv; cases hv
    | ok v' =>
      rw [hvalue] at hv
      cases hv
      obtain ⟨es, r, a, k, hconcl, hanswer⟩ := call_of_ok hvalue
      have hvouches := (h.answer c (supply.fresh k) r).1
      rw [hanswer] at hvouches
      exact (hvouches d (hconcl.document?.symm.trans hd)).loads
  | request c fresh r => exact ((h.answer c fresh r).1 d hd).loads
  | _ => cases hd

/-- A document was deleted. -/
def Deletes (t t' : Tables) : Prop := ∃ q, t' = t.deleteDocument Rules.all q

/-- What was granted to a request has replaced what was committed, and nobody has a working copy. -/
def Granted (db db' : Database) : Prop :=
  ∃ fresh r w d t, Request.work? fresh r = some w ∧ db.held = none ∧
    w.runOn db.committed = (.ok d, t) ∧ db' = { db with committed := t }

/-- **A client of the library is granted a request, or moves tables by deletions only.** -/
theorem granted_or_steps {e : Event} (hlibrary : e.isLibrary = true) (db : Database) :
    db.Granted (e.apply db) ∨ db.Steps Deletes (e.apply db) := by
  have hanswer : ∀ (c : Connection) (fresh : Fresh) (r : Request),
      db.Granted (db.answer c fresh r).2 ∨ db.Steps Deletes (db.answer c fresh r).2 := by
    intro c fresh r
    rcases answer_cases db c fresh r with hkept | ⟨w, d, t, hgranted⟩
    · rw [hkept]
      exact Or.inr (steps_refl _ db)
    · exact Or.inl ⟨fresh, r, w, d, t, hgranted⟩
  cases e with
  | call c reserved supply s =>
    show db.Granted (db.call c supply (s.dialogue reserved)).state ∨
      db.Steps Deletes (db.call c supply (s.dialogue reserved)).state
    rcases call_cases (s.settled_dialogue reserved) (s.proper_dialogue reserved) with
      hkept | ⟨r, k, -, hafter⟩
    · rw [hkept]
      exact Or.inr (steps_refl _ db)
    · rw [hafter]
      exact hanswer c (supply.fresh k) r
  | request c fresh r => exact hanswer c fresh r
  | change c rules ch =>
    exact Or.inr ((Event.steps_apply (.change c rules ch) db).mono fun t t' hwrites =>
      Event.change_of_isDeletion hlibrary hwrites)
  | begin c kind => exact Or.inr (db.steps_begin _ c kind)
  | beginRead c => exact Or.inr (db.steps_beginRead _ c)
  | commit c => exact Or.inr (db.steps_commit _ c)
  | rollback c => exact Or.inr (db.steps_rollback _ c)

/-- **An open working copy is what is committed, less some documents.** -/
def Drafted (t : Tables) (w : Option Tables) : Prop :=
  ∀ u ∈ w, ∀ p, u.hasDocument p = true → t.hasDocument p = true ∧ Since p t u

/-- What a move by deletions makes of a working copy, and of a document that it leaves. -/
theorem drafted_of_moves {t t' : Tables} {w w' : Option Tables} (h : Moves Deletes t w t' w')
    (hdrafted : Drafted t w) :
    Drafted t' w' ∧ ∀ p, t'.hasDocument p = true → t.hasDocument p = true ∧ Since p t t' := by
  have hrefl : ∀ t : Tables, ∀ p, t.hasDocument p = true → t.hasDocument p = true ∧ Since p t t :=
    fun t p hstored => ⟨hstored, Since.refl hstored⟩
  have hnone : ∀ t : Tables, Drafted t none := fun t u hu => by cases hu
  cases h with
  | stay => exact ⟨hdrafted, hrefl t⟩
  | write hdeletes =>
    obtain ⟨q, rfl⟩ := hdeletes
    exact ⟨hnone _, fun p hstored => since_deleteDocument hstored⟩
  | begin =>
    refine ⟨fun u hu p hstored => ?_, hrefl t⟩
    cases hu
    exact hrefl t p hstored
  | beginWrite hdeletes =>
    obtain ⟨q, rfl⟩ := hdeletes
    refine ⟨fun u hu p hstored => ?_, hrefl t⟩
    cases hu
    exact since_deleteDocument hstored
  | stage hdeletes =>
    obtain ⟨q, rfl⟩ := hdeletes
    refine ⟨fun u hu p hstored => ?_, hrefl t⟩
    cases hu
    obtain ⟨hbefore, hsince⟩ := since_deleteDocument hstored
    obtain ⟨hcommitted, hdraft⟩ := hdrafted _ rfl p hbefore
    exact ⟨hcommitted, hdraft.trans hsince⟩
  | commit => exact ⟨hnone _, fun p hstored => hdrafted _ rfl p hstored⟩
  | rollback => exact ⟨hnone _, hrefl t⟩

/-- A state of a run of library clients. -/
structure Orderly (db : Database) : Prop where
  identity : db.Holds Identity
  drafted : Drafted db.committed db.working?

theorem orderly_empty : empty.Orderly where
  identity := holds_empty Identity.empty
  drafted := fun u hu => by cases hu

/-- **One event**: what it commits shows every change of a document that stays. -/
theorem Orderly.apply {e : Event} (h : db.Orderly) (hlibrary : e.isLibrary = true) :
    (e.apply db).Orderly ∧ ∀ p, db.committed.hasDocument p = true →
      (e.apply db).committed.hasDocument p = true → Since p db.committed (e.apply db).committed := by
  have hid : (e.apply db).Holds Identity :=
    (e.steps_apply db).holds (fun t t' ht hw => Event.identity_writes hlibrary ht hw) h.identity
  rcases granted_or_steps hlibrary db with ⟨fresh, r, w, d, t, hwork, hheld, hrun, hafter⟩ | hsteps
  · refine ⟨⟨hid, fun u hu => ?_⟩, fun p hstored _ => ?_⟩
    · rw [hafter] at hu
      unfold working? at hu
      dsimp only at hu
      rw [hheld] at hu
      cases hu
    · rw [hafter]
      exact h.identity.1.since_granted hwork hrun hstored
  · obtain ⟨hdrafted, hsince⟩ := drafted_of_moves hsteps h.drafted
    exact ⟨⟨hid, hdrafted⟩, fun p _ hstored => (hsince p hstored).2⟩

theorem after_append (db : Database) (events events' : List Event) :
    db.after (events ++ events') = (db.after events).after events' :=
  List.foldl_append

/-- **A run** during which the document stays. -/
theorem Orderly.after {events : List Event} (h : db.Orderly)
    (hlibrary : ∀ e ∈ events, e.isLibrary = true)
    (hstored : ∀ pre post, events = pre ++ post → (db.after pre).committed.hasDocument p = true) :
    Since p db.committed (db.after events).committed := by
  induction events generalizing db with
  | nil => exact Since.refl (hstored [] [] rfl)
  | cons e events ih =>
    obtain ⟨hnext, hsince⟩ := h.apply (hlibrary e List.mem_cons_self)
    have hrest : ∀ pre post, events = pre ++ post →
        ((e.apply db).after pre).committed.hasDocument p = true := by
      intro pre post hsplit
      exact hstored (e :: pre) post (by rw [hsplit, List.cons_append])
    have hstep := hsince p (hstored [] (e :: events) rfl) (hrest [] events rfl)
    exact hstep.trans (ih hnext (fun e' he' => hlibrary e' (List.mem_cons_of_mem e he')) hrest)

theorem orderly_after {events : List Event} (hlibrary : ∀ e ∈ events, e.isLibrary = true) :
    (empty.after events).Orderly := by
  induction events using List.reverseRecOn with
  | nil => exact orderly_empty
  | append_singleton events e ih =>
    rw [after_append]
    have hbefore := ih fun e' he' => hlibrary e' (List.mem_append_left _ he')
    exact (hbefore.apply (hlibrary e (List.mem_append_right _ (List.mem_singleton.2 rfl)))).1

/-! ## §4. The main result. -/

/-- **The version tells changes.**  In a run from an empty store, of calls, requests, deletions of
documents and transactions, take two events that return a document of the same public id, and let that
document be stored at every moment between them.  Then the later document has no smaller version, and
if the versions are equal the documents are equal in every field. -/
theorem version_tells_changes (earlier between : List Event) (first last : Event)
    (hlibrary : ∀ e ∈ earlier ++ first :: between ++ [last], e.isLibrary = true) (d d' : Document)
    (hfirst : first.document? (empty.after earlier) = some d)
    (hlast : last.document? (empty.after (earlier ++ first :: between)) = some d')
    (hsame : d'.publicId = d.publicId)
    (hstored : ∀ pre post, between = pre ++ post →
      (empty.after (earlier ++ first :: pre)).committed.hasDocument d.publicId = true) :
    d.version ≤ d'.version ∧ (d.version = d'.version → d = d') := by
  have hrun : ∀ e ∈ earlier ++ first :: between, e.isLibrary = true := fun e he =>
    hlibrary e (List.mem_append_left _ he)
  have hearlier : (empty.after earlier).Orderly :=
    orderly_after fun e he => hrun e (List.mem_append_left _ he)
  have hmiddle : (empty.after (earlier ++ first :: between)).Orderly := orderly_after hrun
  -- the document as it is right after each of the two events
  have hload := loads_of_document? hearlier.identity.1.canonical.toUnique hfirst
  have hload' := loads_of_document? hmiddle.identity.1.canonical.toUnique hlast
  rw [hsame] at hload'
  have hsplit : ∀ pre, empty.after (earlier ++ first :: pre)
      = (first.apply (empty.after earlier)).after pre := fun pre =>
    after_append empty earlier (first :: pre)
  -- between the events it stays, and the last event does not remove it
  have hbetween : Since d.publicId (first.apply (empty.after earlier)).committed
      (empty.after (earlier ++ first :: between)).committed := by
    rw [hsplit]
    have hfirstLib := hrun first (List.mem_append_right _ List.mem_cons_self)
    refine (hearlier.apply hfirstLib).1.after (fun e he => ?_) fun pre post hpre => ?_
    · exact hrun e (List.mem_append_right _ (List.mem_cons_of_mem first he))
    · rw [← hsplit]
      exact hstored pre post hpre
  have hend : (last.apply (empty.after (earlier ++ first :: between))).committed.hasDocument
      d.publicId = true := by
    obtain ⟨row, hrow, -⟩ := loadDocument_eq_some_iff.1 hload'
    exact hasDocument_of_document? hrow
  have hlastLib := hlibrary last (List.mem_append_right _ (List.mem_singleton.2 rfl))
  have hstep := (hmiddle.apply hlastLib).2 d.publicId (hstored between [] (by simp)) hend
  exact (hbetween.trans hstep).loaded hload hload'

/-- A promotion of the primary alias, a name that is taken, and a deletion that is rolled back. -/
def idleEvents : List Event :=
  [.request 1 ⟨⟨9⟩, 7⟩ (.promoteAlias "d" "a"),
   .call 1 ⟨[]⟩ plainSupply (.add "d" "b"),
   .begin 3 .immediate,
   .change 3 Rules.all (.deleteDocument "d"),
   .rollback 3]

theorem version_tells_changes_idleEvents :
    let earlier : List Event := [.request 1 ⟨⟨7⟩, 5⟩ (.createDocument "d" (some "a"))]
    let first : Event := .request 2 ⟨⟨8⟩, 6⟩ (.createAlias "d" "b")
    let now := empty.after (earlier ++ first :: idleEvents)
    ∃ d d' d'', first.document? (empty.after earlier) = some d ∧
      (Event.call 2 ⟨[]⟩ plainSupply (.resolve "b")).document? now = some d' ∧
      (Event.call 2 ⟨[]⟩ plainSupply (.promote "d" "b")).document? now = some d'' ∧
      d.version = 1 ∧ d = d' ∧ d.version ≤ d''.version := by
  intro earlier first now
  let shown (e : Event) (db : Database) := (e.document? db).map fun d => (d.publicId, d.version)
  have hfirst : shown first (empty.after earlier) = some ("d", 1) := by decide +kernel
  have hresolve : shown (.call 2 ⟨[]⟩ plainSupply (.resolve "b")) now = some ("d", 1) := by
    decide +kernel
  have hpromote : shown (.call 2 ⟨[]⟩ plainSupply (.promote "d" "b")) now = some ("d", 2) := by
    decide +kernel
  obtain ⟨d, hd, hseen⟩ := Option.map_eq_some_iff.1 hfirst
  obtain ⟨d', hd', hseen'⟩ := Option.map_eq_some_iff.1 hresolve
  obtain ⟨d'', hd'', hseen''⟩ := Option.map_eq_some_iff.1 hpromote
  simp only [Prod.mk.injEq] at hseen hseen' hseen''
  have hstored : ∀ pre post, idleEvents = pre ++ post →
      (empty.after (earlier ++ first :: pre)).committed.hasDocument d.publicId = true := by
    intro pre post hsplit
    have hprefixes : idleEvents.inits.all (fun pre =>
        (empty.after (earlier ++ first :: pre)).committed.hasDocument "d") = true := by decide +kernel
    rw [hseen.1]
    exact List.all_eq_true.1 hprefixes pre ((List.mem_inits _ _).2 ⟨post, hsplit.symm⟩)
  refine ⟨d, d', d'', hd, hd', hd'', hseen.2, ?_, ?_⟩
  · exact (version_tells_changes earlier idleEvents first _ (by decide) d d' hd hd'
      (hseen'.1.trans hseen.1.symm) hstored).2 (hseen.2.trans hseen'.2.symm)
  · exact (version_tells_changes earlier idleEvents first _ (by decide) d d'' hd hd''
      (hseen''.1.trans hseen.1.symm) hstored).1

end Database

end Namebook
