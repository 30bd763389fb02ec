/-
  Namebook.Proofs.Identity
  ────────────────────────
  **EVERY DOCUMENT CAN BE TOLD AND SHOWN — in every state that clients of the library reach.**

  Clients call services, ask repositories, delete documents, and open, commit and roll back
  transactions; each step may be refused.

    • `Proper.granted` — where services ask, only proper names are written;
    • `identity_after` — the invariant in every reachable state, and what follows for loading;
      without direct requests also the names that services admit.
-/
import Namebook.Proofs.Repository.Identity
import Namebook.Proofs.Namespace

namespace Namebook

namespace Tables

variable {t t' : Tables} {fresh : Fresh} {p : String} {d : Document}

/-! ## §1. Names that services admit. -/

/-- Names as services admit them. -/
structure Proper (reserved : ReservedNames) (t : Tables) : Prop where
  aliases : ∀ a ∈ t.aliases, Call.checkName reserved a.name = .ok ()
  documents : ∀ e ∈ t.documents, PublicId.isShaped e.publicId = true

namespace Proper

variable {reserved : ReservedNames}

theorem empty : Tables.empty.Proper reserved :=
  ⟨by simp [Tables.empty], by simp [Tables.empty]⟩

theorem touched (h : t.Proper reserved) (p : String) (now version : Int64) :
    (t.touched p now version).Proper reserved where
  aliases := h.aliases
  documents := by
    intro e he
    have hmem : e.publicId ∈ (t.touched p now version).documents.map DocumentRow.publicId :=
      List.mem_map.2 ⟨e, he, rfl⟩
    rw [touched_publicIds] at hmem
    obtain ⟨e', he', heq⟩ := List.mem_map.1 hmem
    rw [← heq]
    exact h.documents e' he'

theorem withDocument {row : DocumentRow} (h : t.Proper reserved)
    (hrow : PublicId.isShaped row.publicId = true) : (t.withDocument row).Proper reserved where
  aliases := h.aliases
  documents := by
    intro e he
    rcases List.mem_append.1 he with he | he
    · exact h.documents e he
    · rw [List.mem_singleton.1 he]
      exact hrow

theorem withAlias {row : AliasRow} (h : t.Proper reserved)
    (hrow : Call.checkName reserved row.name = .ok ()) : (t.withAlias row).Proper reserved where
  aliases := by
    intro a ha
    rcases List.mem_append.1 ha with ha | ha
    · exact h.aliases a ha
    · rw [List.mem_singleton.1 ha]
      exact hrow
  documents := h.documents

theorem withoutAliases {gone : AliasRow → Bool} (h : t.Proper reserved) :
    (t.withoutAliases gone).Proper reserved where
  aliases := fun a ha => h.aliases a (List.mem_filter.1 ha).1
  documents := h.documents

theorem deleteDocument (h : t.Proper reserved) :
    (t.deleteDocument Rules.all p).Proper reserved := by
  rw [deleteDocument_eq]
  split
  · exact ⟨fun a ha => h.aliases a (List.mem_filter.1 ha).1,
      fun e he => h.documents e (List.mem_filter.1 he).1⟩
  · exact h

theorem flagMoved {id : Uuid} (h : t.Proper reserved) : (t.flagMoved p id).Proper reserved where
  aliases := by
    intro a ha
    rw [flagMoved_aliases] at ha
    obtain ⟨b, hb, rfl⟩ := List.mem_map.1 ha
    rw [promotedRow_name]
    exact h.aliases b hb
  documents := h.documents

/-- **A granted proper request adds proper names only.** -/
theorem granted {r : Request} {w : Work Document} (h : t.Proper reserved)
    (hproper : r.Proper reserved) (hwork : r.work? fresh = some w)
    (hrun : w.runOn t = (.ok d, t')) : t'.Proper reserved := by
  cases r with
  | createAlias p n =>
    cases hwork
    obtain ⟨-, -, position, row, version, -, -, -, -, rfl, -⟩ := Work.createAlias_eq_ok_iff.1 hrun
    refine Proper.touched ?_ _ _ _
    exact h.withAlias hproper
  | deleteAlias p n =>
    cases hwork
    obtain ⟨-, a, row, version, -, -, -, -, rfl, -⟩ := Work.deleteAlias_eq_ok_iff.1 hrun
    exact h.withoutAliases.touched _ _ _
  | promoteAlias p n =>
    cases hwork
    obtain ⟨-, a, -, -, hcase⟩ := Work.promoteAlias_eq_ok_iff.1 hrun
    rcases hcase with ⟨-, rfl⟩ | ⟨-, row, version, -, -, -, rfl⟩
    · exact h
    · exact h.flagMoved.touched _ _ _
  | createDocument p initial =>
    cases hwork
    obtain ⟨hshaped, hinitial⟩ := hproper
    cases initial with
    | none =>
      obtain ⟨-, -, rfl, -⟩ := Work.createDocument_none_eq_ok_iff.1 hrun
      exact h.withDocument hshaped
    | some n =>
      obtain ⟨-, -, -, -, -, rfl, -⟩ := Work.createDocument_some_eq_ok_iff.1 hrun
      have hname : Call.checkName reserved n = .ok () := hinitial n rfl
      refine Proper.withAlias (h.withDocument hshaped) ?_
      exact hname
  | _ => cases hwork

end Proper

end Tables

/-! ## §2. Runs. -/

/-- Whether a statement deletes a document, under all rules. -/
def RowChange.isDeletion (rules : Rules) : RowChange → Bool
  | deleteDocument _ => decide (rules = Rules.all)
  | _ => false

namespace Event

open Tables

/-- Steps of clients of the library: calls, requests, deletions of documents, and transactions. -/
def isLibrary : Event → Bool
  | change _ rules ch => ch.isDeletion rules
  | _ => true

/-- Steps of clients that use services with the same reserved names, and no repository directly. -/
def isService (reserved : ReservedNames) : Event → Bool
  | call _ others _ _ => decide (others = reserved)
  | request _ _ _ => false
  | change _ rules ch => ch.isDeletion rules
  | _ => true

/-- A deletion by another program, inside a transaction or on its own. -/
theorem change_of_isDeletion {c : Connection} {rules : Rules} {ch : RowChange} {t t' : Tables}
    (h : ch.isDeletion rules = true) (hwrites : (change c rules ch).Writes t t') :
    ∃ p, t' = t.deleteDocument Rules.all p := by
  cases ch with
  | deleteDocument p =>
    obtain ⟨n, rules', hrules', hok⟩ := hwrites
    have hall : rules' = Rules.all := by
      rw [of_decide_eq_true h] at hrules'
      rcases hrules' with h | h <;> exact h
    subst hall
    exact ⟨p, eq_of_ok hok⟩
  | _ => cases h

/-- **What clients of the library write keeps the invariant.** -/
theorem identity_writes {e : Event} {t t' : Tables} (hlibrary : e.isLibrary = true)
    (h : t.Identity) (hwrites : e.Writes t t') : t'.Identity := by
  cases e with
  | call c reserved supply s =>
    obtain ⟨r, k, -, w, d, hwork, hrun⟩ := hwrites
    exact h.granted hwork hrun
  | request c fresh r =>
    obtain ⟨w, d, hwork, hrun⟩ := hwrites
    exact h.granted hwork hrun
  | change c rules ch =>
    obtain ⟨p, rfl⟩ := change_of_isDeletion hlibrary hwrites
    exact h.deleteDocument
  | _ => exact absurd hwrites id

theorem proper_writes {reserved : ReservedNames} {e : Event} {t t' : Tables}
    (hservice : e.isService reserved = true) (h : t.Proper reserved) (hwrites : e.Writes t t') :
    t'.Proper reserved := by
  cases e with
  | call c others supply s =>
    obtain ⟨r, k, hproper, w, d, hwork, hrun⟩ := hwrites
    rw [of_decide_eq_true hservice] at hproper
    exact h.granted hproper hwork hrun
  | request c fresh r => cases hservice
  | change c rules ch =>
    obtain ⟨p, rfl⟩ := change_of_isDeletion hservice hwrites
    exact h.deleteDocument
  | _ => exact absurd hwrites id

end Event

namespace Database

open Tables

theorem identity_holds {events : List Event} (h : ∀ e ∈ events, e.isLibrary = true) :
    (empty.after events).Holds Identity := by
  refine holds_after (holds_empty Identity.empty) ?_
  intro e he t t' ht hwrites
  exact Event.identity_writes (h e he) ht hwrites

theorem proper_holds {reserved : ReservedNames} {events : List Event}
    (h : ∀ e ∈ events, e.isService reserved = true) :
    (empty.after events).Holds (Proper reserved) := by
  refine holds_after (holds_empty Proper.empty) ?_
  intro e he t t' ht hwrites
  exact Event.proper_writes (h e he) ht hwrites

/-- The name check passes names that are neither blank nor reserved. -/
theorem checkName_eq_ok_iff {reserved : ReservedNames} {name : String} :
    Call.checkName reserved name = .ok () ↔
      Text.isBlank name = false ∧ reserved.contains name = false := by
  unfold Call.checkName
  cases Text.isBlank name <;> cases reserved.contains name <;> simp

/-- **Documents of every reachable state.**  A document with aliases has exactly one primary alias,
every alias has its document, the positions of a document's aliases are distinct, alias ids are
distinct canonical ids, and every document loads without fault.  Where only services create, aliases
are neither blank nor reserved, and public ids have the generated shape. -/
theorem identity_after (events : List Event) (hlibrary : ∀ e ∈ events, e.isLibrary = true) :
    (empty.after events).Holds (fun t =>
      (∀ d ∈ t.documents, t.aliasesOf d.publicId ≠ [] →
        (t.aliasesOf d.publicId).countP (·.flag == 1) = 1) ∧
      (∀ a ∈ t.aliases, t.hasDocument a.document = true) ∧
      (∀ p, (t.aliasesOf p).Pairwise fun a b => a.position ≠ b.position) ∧
      t.aliases.Pairwise (fun a b => a.id ≠ b.id) ∧
      (∀ a ∈ t.aliases, ∃ u : Uuid, a.id = u.render) ∧
      (∀ d ∈ t.documents, ∃ doc, Rows.loadDocument t d.publicId = .ok (some doc) ∧
        doc.publicId = d.publicId ∧ doc.validate = .ok ())) ∧
    ∀ reserved : ReservedNames, (∀ e ∈ events, e.isService reserved = true) →
      (empty.after events).Holds (fun t =>
        (∀ a ∈ t.aliases, Text.isBlank a.name = false ∧ reserved.contains a.name = false) ∧
        (∀ d ∈ t.documents, PublicId.isShaped d.publicId = true)) := by
  constructor
  · refine (identity_holds hlibrary).mono fun t h => ?_
    refine ⟨fun d _ => h.primaries_eq_one, h.owners, h.apart, h.ids,
      fun a ha => (h.sound a ha).canonical, ?_⟩
    intro d hd
    have hrow : t.document? d.publicId = some d := h.document?_eq_some_iff.2 ⟨hd, rfl⟩
    refine ⟨t.documentOf d, ?_, rfl, h.validate_documentOf hd⟩
    rw [h.loadDocument_eq, hrow]
    rfl
  · intro reserved hservice
    refine (proper_holds hservice).mono fun t h => ⟨?_, h.documents⟩
    intro a ha
    exact checkName_eq_ok_iff.1 (h.aliases a ha)

/-- Two documents, of which one is deleted; the other gets a second alias, which becomes primary
before the first one goes.  A third document gets no id that is free, and a reserved name is
refused. -/
def serviceRun : List Event :=
  let reserved : ReservedNames := ⟨["admin"]⟩
  let other : Supply := { fresh := fun _ => ⟨⟨5⟩, 6⟩, blocks := fun _ => Vector.replicate 16 1 }
  let id := "00000000000000000000000000"
  [.call 1 reserved plainSupply (.create (some "a")),
   .call 2 reserved other (.create (some "z")),
   .call 2 reserved other (.create none),
   .call 1 reserved { plainSupply with fresh := fun _ => ⟨⟨9⟩, 6⟩ } (.add id "b"),
   .call 1 reserved plainSupply (.add id "admin"),
   .begin 3 .immediate,
   .change 3 Rules.all (.deleteDocument "040g2081040g2081040g208104"),
   .commit 3,
   .call 1 reserved plainSupply (.promote id "b"),
   .call 1 reserved plainSupply (.remove id "a")]

theorem identity_after_serviceRun :
    (empty.after serviceRun).committed.aliases.map (·.name) = ["b"] ∧
    (∀ d ∈ (empty.after serviceRun).committed.documents, ∃ doc,
      Rows.loadDocument (empty.after serviceRun).committed d.publicId = .ok (some doc) ∧
        doc.publicId = d.publicId ∧ doc.validate = .ok ()) ∧
    (∀ d ∈ (empty.after serviceRun).committed.documents, PublicId.isShaped d.publicId = true) :=
  ⟨by decide +kernel, (identity_after serviceRun (by decide)).1.1.2.2.2.2.2,
    ((identity_after serviceRun (by decide)).2 ⟨["admin"]⟩ (by decide)).1.2⟩

end Database

end Namebook
