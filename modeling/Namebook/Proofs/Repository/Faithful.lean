/-
  Namebook.Proofs.Repository.Faithful
  ───────────────────────────────────
  **WHAT IS RETURNED IS WHAT IS STORED — whatever the store holds.**

  Other programs may have written anything that the unique columns of the store allow: flags out of
  range, ids that are none, equal positions, owners that do not exist, an index that is out of step.
  Still a document that a request or a call returns is without fault and shows its rows:

    • `Tables.Shows` — a document shows what the tables hold of it;
    • `Tables.Unique.granted` — a granted change keeps the unique columns unique;
    • `returned_documents_show_rows` — every returned document shows its rows and can be loaded from
      what is committed, and without one nothing is committed.
-/
import Namebook.Proofs.Repository.Decoding
import Namebook.Proofs.Service.Conclusion
import Namebook.Proofs.Store.Order

namespace Namebook

/-! ## §1. Documents that show their rows. -/

namespace Tables

/-- **A document shows what the tables hold of it**: its own row, and each of its alias rows once, in
order.  It has a proper public id, distinct aliases of its own that are not named like it, and a
primary alias exactly if it has any. -/
structure Shows (t : Tables) (d : Document) : Prop where
  named : Text.isBlank d.publicId = false
  row : ⟨d.publicId, d.version, d.createdAt, d.updatedAt⟩ ∈ t.documents
  rows : ∃ rows : List AliasRow, rows.Perm (t.aliasesOf d.publicId) ∧
    rows.Pairwise (fun a b => a.position < b.position ∨ a.position = b.position ∧ a.id < b.id) ∧
    rows.map (fun a => (Uuid.parse? a.id, a.name, a.document, a.flag))
      = d.aliases.map fun a => (some a.id, a.name, a.document, if a.primary then 1 else 0)
  names : d.aliases.Pairwise fun a b => a.name ≠ b.name
  owned : ∀ a ∈ d.aliases, a.document = d.publicId
  apart : ∀ a ∈ d.aliases, a.name ≠ d.publicId
  primary : d.aliases.countP (·.primary) = if d.aliases = [] then 0 else 1

/-- The columns that are unique whatever other programs do. -/
structure Unique (t : Tables) : Prop where
  publicIds : t.documents.Pairwise fun d e => d.publicId ≠ e.publicId
  names : t.aliases.Pairwise fun a b => a.name ≠ b.name
  ids : t.aliases.Pairwise fun a b => a.id ≠ b.id

variable {t t' : Tables} {p : String} {d : Document}

/-- **What was loaded shows its rows.** -/
theorem Unique.shows (h : t.Unique) (hload : Rows.loadDocument t p = .ok (some d)) : t.Shows d := by
  obtain ⟨row, hrow, hassemble, hvalid⟩ := loadDocument_eq_some_iff.1 hload
  obtain ⟨hrows, rfl⟩ := Rows.assemble_eq_ok_iff.1 hassemble
  obtain ⟨hnamed, haliases, hprimary⟩ :=
    Document.fault?_eq_none_iff.1 (Document.validate_eq_ok_iff.1 hvalid)
  have hread := Rows.mapM_decodeAlias_eq_ok_iff.1 hrows
  have hperm := perm_sortRows (t.aliasesOf d.publicId)
  refine ⟨hnamed, (mem_of_document? hrow).1, ⟨_, hperm, ?_, hread⟩, ?_,
    fun a ha => (haliases a ha).1, fun a ha => (haliases a ha).2, ?_⟩
  · have hids : Distinct (t.aliasesOf d.publicId) :=
      (h.ids.filter _).imp fun hne hsame => hne hsame.2
    exact (sorted_sortRows hids).imp fun hprec => precedes_iff.1 hprec
  · -- the names are those of the rows
    have hnames : ((sortRows (t.aliasesOf d.publicId)).map (·.name)).Pairwise (· ≠ ·) :=
      List.pairwise_map.2 (hperm.symm.pairwise (h.names.filter _) Ne.symm)
    have heq : (sortRows (t.aliasesOf d.publicId)).map (·.name) = d.aliases.map (·.name) := by
      have hmap := congrArg (List.map fun x => x.2.1) hread
      rw [List.map_map, List.map_map] at hmap
      exact hmap
    rw [heq] at hnames
    exact List.pairwise_map.1 hnames
  · rcases hprimary with hempty | hone
    · rw [if_pos hempty, hempty]
      rfl
    · have hne : d.aliases ≠ [] := by
        intro hempty
        unfold Document.primaryCount at hone
        rw [hempty] at hone
        cases hone
      rw [if_neg hne]
      exact hone

/-! ### The unique columns stay unique. -/

theorem Unique.of_map_eq (h : t.Unique)
    (hdocs : t'.documents.map (·.publicId) = t.documents.map (·.publicId))
    (hnames : t'.aliases.map (·.name) = t.aliases.map (·.name))
    (hids : t'.aliases.map (·.id) = t.aliases.map (·.id)) : t'.Unique where
  publicIds := List.pairwise_map.1 (hdocs ▸ List.pairwise_map.2 h.publicIds)
  names := List.pairwise_map.1 (hnames ▸ List.pairwise_map.2 h.names)
  ids := List.pairwise_map.1 (hids ▸ List.pairwise_map.2 h.ids)

theorem Unique.touched (h : t.Unique) (p : String) (now version : Int64) :
    (t.touched p now version).Unique :=
  h.of_map_eq (touched_publicIds t p now version) rfl rfl

theorem Unique.withDocument {row : DocumentRow} (h : t.Unique)
    (hfree : ∀ d ∈ t.documents, d.publicId ≠ row.publicId) : (t.withDocument row).Unique where
  publicIds := by
    refine List.pairwise_append.2 ⟨h.publicIds, List.pairwise_singleton _ _, ?_⟩
    intro d hd e he
    rw [List.mem_singleton.1 he]
    exact hfree d hd
  names := h.names
  ids := h.ids

theorem Unique.withAlias {row : AliasRow} (h : t.Unique) (hrow : t.Admits row) :
    (t.withAlias row).Unique where
  publicIds := h.publicIds
  names := Indexed.pairwise_withAlias h.names hrow.name
  ids := Indexed.pairwise_withAlias h.ids hrow.id

theorem Unique.withoutAliases {gone : AliasRow → Bool} (h : t.Unique) :
    (t.withoutAliases gone).Unique :=
  ⟨h.publicIds, h.names.filter _, h.ids.filter _⟩

theorem Unique.flagMoved (h : t.Unique) (p : String) (id : Uuid) : (t.flagMoved p id).Unique := by
  have hmap : ∀ f : AliasRow → String, (∀ a, f (promotedRow p id.render a) = f a) →
      (t.flagMoved p id).aliases.map f = t.aliases.map f := by
    intro f hf
    rw [flagMoved_aliases, List.map_map]
    exact List.map_congr_left fun a _ => hf a
  refine h.of_map_eq rfl (hmap _ (promotedRow_name p id.render)) (hmap _ fun a => ?_)
  obtain ⟨v, hv⟩ := promotedRow_eq p id.render a
  rw [hv]

/-- **A granted change keeps unique columns unique.** -/
theorem Unique.granted {fresh : Fresh} {r : Request} {w : Work Document} (h : t.Unique)
    (hwork : r.work? fresh = some w) (hrun : w.runOn t = (.ok d, t')) : t'.Unique := by
  refine kept_of_granted (fun s s' hform hs => ?_) h hwork hrun
  cases hform with
  | withDocument hids hfree => exact hs.withDocument hids
  | withAlias hadmits => exact hs.withAlias hadmits
  | withoutAliases gone => exact hs.withoutAliases
  | flagMoved hset => exact hs.flagMoved _ _
  | touched p now version => exact hs.touched p now version

end Tables

/-! ## §2. Requests. -/

namespace Request

/-- The document that a request names. -/
def target? : Request → Option String
  | createAlias p _ => some p
  | deleteAlias p _ => some p
  | promoteAlias p _ => some p
  | createDocument p _ => some p
  | findByPublicId p => some p
  | _ => none

/-- The document that an answer holds. -/
def document? : (r : Request) → r.Answer → Option Document
  | findAliasByName _, _ => none
  | createAlias _ _, a => a.toOption
  | deleteAlias _ _, a => a.toOption
  | promoteAlias _ _, a => a.toOption
  | createDocument _ _, a => a.toOption
  | findByPublicId _, a => a.toOption.join
  | findByAlias _, a => a.toOption.join

variable {fresh : Fresh} {r : Request} {w : Work Document} {d : Document} {db : Database}
  {c : Connection}

/-- A change ends by loading the document that it has changed. -/
theorem loads_of_granted {t t' : Tables} (hwork : r.work? fresh = some w)
    (hrun : w.runOn t = (.ok d, t')) :
    r.target? = some d.publicId ∧ Rows.loadDocument t' d.publicId = .ok (some d) := by
  have hloads : ∃ p, r.target? = some p ∧ Rows.loadRequired t' p = .ok d := by
    cases r with
    | createAlias p n =>
      cases hwork
      obtain ⟨-, -, position, row, version, -, -, -, -, -, hload⟩ :=
        Work.createAlias_eq_ok_iff.1 hrun
      exact ⟨p, rfl, hload⟩
    | deleteAlias p n =>
      cases hwork
      obtain ⟨-, a, row, version, -, -, -, -, -, hload⟩ := Work.deleteAlias_eq_ok_iff.1 hrun
      exact ⟨p, rfl, hload⟩
    | promoteAlias p n =>
      cases hwork
      obtain ⟨-, a, -, hload, -⟩ := Work.promoteAlias_eq_ok_iff.1 hrun
      exact ⟨p, rfl, hload⟩
    | createDocument p initial =>
      cases hwork
      cases initial with
      | none =>
        obtain ⟨-, -, -, hload⟩ := Work.createDocument_none_eq_ok_iff.1 hrun
        exact ⟨p, rfl, hload⟩
      | some n =>
        obtain ⟨-, -, -, -, -, -, hload⟩ := Work.createDocument_some_eq_ok_iff.1 hrun
        exact ⟨p, rfl, hload⟩
    | _ => cases hwork
  obtain ⟨p, htarget, hload⟩ := hloads
  have hfound := Tables.loadRequired_eq_ok_iff_loadDocument.1 hload
  cases Tables.publicId_of_loadDocument hfound
  exact ⟨htarget, hfound⟩

/-- **A change returns nothing and changes nothing, or returns the document of its work and commits
the tables that it left.** -/
theorem document?_of_work (hwork : r.work? fresh = some w) :
    (r.document? (db.answer c fresh r).1 = none ∧ (db.answer c fresh r).2 = db) ∨
      ∃ d t, r.document? (db.answer c fresh r).1 = some d ∧
        w.runOn db.committed = (.ok d, t) ∧ (db.answer c fresh r).2 = { db with committed := t } := by
  have hwrite : ((db.write c w).1.toOption = none ∧ (db.write c w).2 = db) ∨
      ∃ d t, (db.write c w).1.toOption = some d ∧ w.runOn db.committed = (.ok d, t) ∧
        (db.write c w).2 = { db with committed := t } := by
    cases hanswer : (db.write c w).1 with
    | error e => exact Or.inl ⟨rfl, Database.write_of_error hanswer⟩
    | ok d =>
      obtain ⟨t, -, hrun, hafter⟩ := Database.write_of_ok hanswer
      exact Or.inr ⟨d, t, rfl, hrun, hafter⟩
  cases r with
  | createAlias p n => cases hwork; exact hwrite
  | deleteAlias p n => cases hwork; exact hwrite
  | promoteAlias p n => cases hwork; exact hwrite
  | createDocument p initial => cases hwork; exact hwrite
  | _ => cases hwork

/-- A look-up returns what it has loaded. -/
theorem loads_of_lookup (hlookup : r.isChange = false)
    (h : r.document? (db.answer c fresh r).1 = some d) :
    ∃ p, Rows.loadDocument db.committed p = .ok (some d) ∧ ∀ q ∈ r.target?, q = p := by
  have hsnapshot : ∀ query : Tables → Except RepositoryError (Option Document),
      (db.snapshot c query).toOption.join = some d → query db.committed = .ok (some d) := by
    intro query h
    cases hquery : db.snapshot c query with
    | error e => rw [hquery] at h; cases h
    | ok found =>
      rw [hquery] at h
      cases (show found = some d from h)
      obtain ⟨t, hreads, hfound⟩ := Database.Reads.of_snapshot hquery
      rw [← hreads.eq_committed]
      exact hfound
  cases r with
  | findAliasByName n => cases h
  | findByPublicId p => exact ⟨p, hsnapshot _ h, fun q hq => (Option.some.inj hq).symm⟩
  | findByAlias n =>
    have hfound := hsnapshot _ h
    unfold Rows.findByAlias at hfound
    split at hfound
    · cases hfound
    next row _ => exact ⟨row.document, hfound, fun q hq => by cases hq⟩
  | _ => cases hlookup

end Request

/-- **A document that may be returned**: it shows the rows that are committed, it can be loaded from
them and is without fault, and it is the one that was asked for. -/
structure Tables.Vouches (t : Tables) (target? : Option String) (d : Document) : Prop where
  shows : t.Shows d
  loads : Rows.loadDocument t d.publicId = .ok (some d)
  valid : d.validate = .ok ()
  target : ∀ p ∈ target?, p = d.publicId

/-- What was loaded may be returned. -/
theorem Tables.Unique.vouches {t : Tables} {p : String} {d : Document} {target? : Option String}
    (h : t.Unique) (hload : Rows.loadDocument t p = .ok (some d))
    (htarget : ∀ q ∈ target?, q = d.publicId) : t.Vouches target? d := by
  obtain ⟨row, -, -, hvalid⟩ := loadDocument_eq_some_iff.1 hload
  refine ⟨h.shows hload, ?_, hvalid, htarget⟩
  rw [publicId_of_loadDocument hload]
  exact hload

/-- **What a request returns is vouched for, and without a document it changes nothing.** -/
theorem Tables.Unique.answer {db : Database} (h : db.committed.Unique) (c : Connection)
    (fresh : Fresh) (r : Request) :
    let o := db.answer c fresh r
    (∀ d ∈ r.document? o.1, o.2.committed.Vouches r.target? d) ∧
    (r.document? o.1 = none → o.2 = db) := by
  intro o
  cases hwork : r.work? fresh with
  | none =>
    have hlookup := Database.isChange_of_work? hwork
    have hkept : o.2 = db := Database.answer_of_lookup hlookup
    refine ⟨fun d hd => ?_, fun _ => hkept⟩
    obtain ⟨p, hload, htarget⟩ := Request.loads_of_lookup hlookup hd
    rw [hkept]
    exact h.vouches hload fun q hq =>
      (htarget q hq).trans (Tables.publicId_of_loadDocument hload).symm
  | some w =>
    rcases Request.document?_of_work hwork with ⟨hnone, hkept⟩ | ⟨d, t, hsome, hrun, hafter⟩
    · exact ⟨fun d hd => (by cases hnone.symm.trans hd), fun _ => hkept⟩
    · refine ⟨fun e he => ?_, fun hnone => (by cases hnone.symm.trans hsome)⟩
      cases hsome.symm.trans he
      have hcommitted : o.2.committed = t := congrArg Database.committed hafter
      rw [hcommitted]
      obtain ⟨htarget, hload⟩ := Request.loads_of_granted hwork hrun
      exact (h.granted hwork hrun).vouches hload fun q hq => Option.some.inj (hq.symm.trans htarget)

/-! ## §3. Calls. -/

namespace ServiceCall

/-- The document that a caller names. -/
def target? : ServiceCall → Option String
  | add p _ => some p
  | remove p _ => some p
  | promote p _ => some p
  | _ => none

/-- The document that a call returns. -/
def document? : (s : ServiceCall) → s.Found → Option Document
  | add _ _, d => some d
  | remove _ _, d => some d
  | promote _ _, d => some d
  | view _ _, _ => none
  | resolve _, d => some d
  | create _, d => some d

/-- A call returns the document of the answer that decides. -/
theorem Concludes.document? {reserved : ReservedNames} {s : ServiceCall} {es : List Exchange}
    {r : Request} {a : r.Answer} {v : s.Found} (h : s.Concludes reserved es r a v) :
    s.document? v = r.document? a := by
  cases h <;> rfl

/-- The answer that decides is about the document that the caller names. -/
theorem Concludes.target? {reserved : ReservedNames} {s : ServiceCall} {es : List Exchange}
    {r : Request} {a : r.Answer} {v : s.Found} (h : s.Concludes reserved es r a v) :
    ∀ p ∈ s.target?, r.target? = some p := by
  cases h <;> intro p hp <;> cases hp <;> rfl

end ServiceCall

namespace Database

/-- **Every returned document is without fault and shows its rows, whatever the store holds.**  The
store is arbitrary but for its unique columns.  A document that a request or a call returns is vouched
for by what is committed afterwards, and whatever returns no document leaves the store as it was: so no
change is committed that leaves its document undecodable or faulty. -/
theorem returned_documents_show_rows (db : Database) (h : db.committed.Unique) (c : Connection) :
    (∀ (fresh : Fresh) (r : Request), let o := db.answer c fresh r
      (∀ d ∈ r.document? o.1, o.2.committed.Vouches r.target? d) ∧
      (r.document? o.1 = none → o.2 = db)) ∧
    (∀ (supply : Supply) (reserved : ReservedNames) (s : ServiceCall),
      let o := db.call c supply (s.dialogue reserved)
      (∀ v, o.value = .ok v → ∀ d ∈ s.document? v, o.state.committed.Vouches s.target? d) ∧
      ((∀ v, o.value = .ok v → s.document? v = none) → o.state = db)) := by
  refine ⟨fun fresh r => h.answer c fresh r, fun supply reserved s => ?_⟩
  intro o
  cases hvalue : o.value with
  | error e =>
    exact ⟨fun v hv => (by cases hv), fun _ => call_of_error (s.settled_dialogue reserved) hvalue⟩
  | ok v =>
    -- a success is its last answer
    obtain ⟨es, r, a, k, hconcl, hanswer⟩ := call_of_ok hvalue
    obtain ⟨hvouches, hkept⟩ := h.answer c (supply.fresh k) r
    rw [hanswer] at hvouches hkept
    refine ⟨fun w hw d hd => ?_, fun hnone => hkept (hconcl.document?.symm.trans (hnone v rfl))⟩
    cases hw
    have hvouched := hvouches d (hconcl.document?.symm.trans hd)
    exact { hvouched with target := fun p hp => hvouched.target p (hconcl.target? p hp) }

/-- Nothing but the unique columns is in order: ids in odd spellings or none at all, equal positions,
a flag out of range, owners that are not stored, and an index that lacks names and has others. -/
def disorderly : Database :=
  { empty with
    committed :=
      { names := [⟨"d", "alias"⟩, ⟨"z", "kind"⟩]
        documents := [⟨"d", -3, 9, 2⟩, ⟨"e", 0, 0, 0⟩]
        aliases :=
          [⟨"\x7b0000000A-0000-0000-0000-000000000001\x7d", "b", "d", 0, 4⟩,
            ⟨"0000000A-0000-0000-0000-000000000002", "a", "d", 1, 4⟩,
            ⟨"", "f", "e", 7, 0⟩, ⟨"id", "g", "nowhere", 1, 0⟩, ⟨"di", "h", "nowhere", 1, 0⟩]
        onePrimary := false } }

theorem returned_documents_show_rows_disorderly :
    let o := disorderly.call 1 plainSupply ((ServiceCall.add "d" "c").dialogue ⟨[]⟩)
    disorderly.committed.Unique ∧ ∃ d : Document, o.value = .ok d ∧
      d.aliases.map (fun a => (a.name, a.primary)) = [("a", true), ("b", false), ("c", false)] ∧
      o.state.committed.Vouches (some "d") d := by
  intro o
  have hunique : disorderly.committed.Unique := ⟨by decide, by decide, by decide⟩
  obtain ⟨d, hd⟩ : ∃ d : Document, o.value = .ok d := ⟨_, rfl⟩
  have hnames : o.value.toOption.map (fun e : Document => e.aliases.map fun a => (a.name, a.primary))
      = some [("a", true), ("b", false), ("c", false)] := by decide +kernel
  rw [hd] at hnames
  obtain ⟨-, hcalls⟩ := returned_documents_show_rows disorderly hunique 1
  exact ⟨hunique, d, hd, Option.some.inj hnames,
    (hcalls plainSupply ⟨[]⟩ (.add "d" "c")).1 d hd d rfl⟩

end Database

end Namebook
