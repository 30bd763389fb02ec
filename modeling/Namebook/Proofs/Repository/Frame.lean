/-
  Namebook.Proofs.Repository.Frame
  ────────────────────────────────
  **WHAT A GRANTED REQUEST LEAVES ALONE.**

  Where ids are stored in their canonical spelling, the row that a change writes is the row that it has
  found.  Then a request about a document changes the rows of this document and the claims of the names
  that it adds or removes, and nothing else:

    • `document?_touched_eq`, `document?_withDocument`, `aliasesOf_…_of_ne`, `name?_…_of_ne` — the
      closed forms of changes, seen from another document or another name;
    • `Canonical.spares` — every granted request.
-/
import Namebook.Proofs.Repository.Addressing

namespace Namebook

namespace Tables

variable {t t' : Tables} {p q n m : String}

/-! ## §1. Closed forms, seen from elsewhere. -/

/-- Counting a change rewrites the row of one document. -/
theorem document?_touched_eq (t : Tables) (p : String) (now version : Int64) (q : String) :
    (t.touched p now version).document? q = (t.document? q).map fun row =>
      if q = p then { row with version, updatedAt := now } else row := by
  show (t.documents.map fun d => if d.publicId == p then { d with version, updatedAt := now } else d).find?
    (·.publicId == q) = _
  rw [List.find?_map]
  have htest : ((fun d : DocumentRow => d.publicId == q) ∘ fun d =>
      if d.publicId == p then { d with version, updatedAt := now } else d) = (·.publicId == q) := by
    funext d
    show ((if d.publicId == p then { d with version, updatedAt := now } else d).publicId == q) = _
    split <;> rfl
  rw [htest]
  show (t.document? q).map _ = _
  refine Option.map_congr fun row hrow => ?_
  have hid := (mem_of_document? hrow).2
  by_cases hp : q = p
  · rw [if_pos (beq_iff_eq.2 (hid.trans hp)), if_pos hp]
  · rw [if_neg (fun h => hp (hid.symm.trans (beq_iff_eq.1 h))), if_neg hp]

theorem document?_touched_of_ne (t : Tables) (now version : Int64) (hne : q ≠ p) :
    (t.touched p now version).document? q = t.document? q := by
  rw [document?_touched_eq]
  simp [hne]

theorem document?_withDocument {row : DocumentRow} (hne : q ≠ row.publicId) :
    (t.withDocument row).document? q = t.document? q := by
  show (t.documents ++ [row]).find? _ = _
  have hnone : [row].find? (·.publicId == q) = none :=
    find?_key_eq_none_iff.2 fun d hd => by rw [List.mem_singleton.1 hd]; exact hne.symm
  rw [List.find?_append, hnone, Option.or_none]
  rfl

theorem aliasesOf_withAlias_of_ne {row : AliasRow} (hne : row.document ≠ q) :
    (t.withAlias row).aliasesOf q = t.aliasesOf q := by
  rw [aliasesOf_withAlias, List.filter_cons_of_neg (by simpa using hne), List.filter_nil,
    List.append_nil]

/-- Rows that go belong to one document. -/
theorem aliasesOf_withoutAliases_of_ne {gone : AliasRow → Bool}
    (h : ∀ a ∈ t.aliases, gone a = true → a.document = p) (hne : q ≠ p) :
    (t.withoutAliases gone).aliasesOf q = t.aliasesOf q := by
  show (t.aliases.filter (!gone ·)).filter _ = t.aliases.filter _
  rw [List.filter_filter]
  refine List.filter_congr fun a ha => ?_
  cases hgone : gone a with
  | false => exact Bool.and_true _
  | true =>
    have hother : (a.document == q) = false := by
      rw [h a ha hgone, beq_eq_false_iff_ne]
      exact hne.symm
    rw [hother]
    rfl

theorem name?_append_of_ne {names : List NameRow} {row : NameRow} (hne : row.name ≠ m) :
    (names ++ [row]).find? (·.name == m) = names.find? (·.name == m) := by
  have hnone : [row].find? (·.name == m) = none :=
    find?_key_eq_none_iff.2 fun r hr => by rw [List.mem_singleton.1 hr]; exact hne
  rw [List.find?_append, hnone, Option.or_none]

theorem name?_withDocument_of_ne {row : DocumentRow} (hne : row.publicId ≠ m) :
    (t.withDocument row).name? m = t.name? m :=
  name?_append_of_ne hne

theorem name?_withAlias_of_ne {row : AliasRow} (hne : row.name ≠ m) :
    (t.withAlias row).name? m = t.name? m :=
  name?_append_of_ne hne

/-- The claims of other names than that of the alias stay. -/
theorem Released.name?_of_ne (h : t.Released t' n) (hne : m ≠ n) : t'.name? m = t.name? m := by
  unfold name?
  rw [h.names, List.find?_filter]
  congr 1
  funext row
  by_cases hm : row.name = m
  · have hother : (row != ⟨n, NameKind.aliasName.text⟩) = true := by
      rw [bne_iff_ne]
      rintro rfl
      exact hne hm.symm
    simp [hother, hm]
  · simp [hm]

/-! ## §2. Rows in canonical spelling. -/

/-- **Rows as the library stores them**: unique columns, and ids in their canonical spelling.  Nothing
is said of owners, flags, positions or the name index. -/
structure Canonical (t : Tables) : Prop extends t.Unique where
  spelled : ∀ a ∈ t.aliases, ∃ u : Uuid, a.id = u.render

theorem Identity.canonical (h : t.Identity) : t.Canonical where
  publicIds := h.publicIds
  names := h.aliasNames
  ids := h.ids
  spelled := fun a ha => (h.sound a ha).canonical

/-- The row that is found is the row that is written. -/
theorem Canonical.id_eq {a : Alias} {row : AliasRow} (h : t.Canonical)
    (hrow : Rows.Owned t p n a row) : row.id = a.id.render := by
  obtain ⟨u, hu⟩ := h.spelled row hrow.mem
  exact hrow.id_of_canonical hu

/-- Only rows of the owner have the id that is written. -/
theorem Canonical.document_of_id {a : Alias} {row b : AliasRow} (h : t.Canonical)
    (hrow : Rows.Owned t p n a row) (hb : b ∈ t.aliases) (hid : b.id = a.id.render) :
    b.document = p := by
  have hsame : b = row := eq_of_key_eq h.ids hb hrow.mem (hid.trans (h.id_eq hrow).symm)
  rw [hsame, hrow.owner]

/-! ## §3. Granted requests. -/

/-- **Everything is spared** but the document `p` with its aliases and the claims of some names. -/
structure Spares (t t' : Tables) (p : String) (names : List String) : Prop where
  document : ∀ q, q ≠ p → t'.document? q = t.document? q
  aliases : ∀ q, q ≠ p → t'.aliasesOf q = t.aliasesOf q
  claims : ∀ m, m ∉ names → t'.name? m = t.name? m

theorem Spares.refl (t : Tables) (p : String) (names : List String) : t.Spares t p names :=
  ⟨fun _ _ => rfl, fun _ _ => rfl, fun _ _ => rfl⟩

/-- Counting a change spares what the change spares. -/
theorem Spares.touched {names : List String} (h : t.Spares t' p names) (now version : Int64) :
    t.Spares (t'.touched p now version) p names where
  document := fun q hne => (document?_touched_of_ne t' now version hne).trans (h.document q hne)
  aliases := h.aliases
  claims := h.claims

/-- An alias that another document does not own goes or comes unseen by it. -/
theorem spares_withAlias (t : Tables) (row : AliasRow) :
    t.Spares (t.withAlias row) row.document [row.name] where
  document := fun _ _ => rfl
  aliases := fun _ hne => aliasesOf_withAlias_of_ne hne.symm
  claims := fun _ hm => name?_withAlias_of_ne fun h => hm (List.mem_singleton.2 h.symm)

theorem spares_withDocument (t : Tables) (row : DocumentRow) :
    t.Spares (t.withDocument row) row.publicId [row.publicId] where
  document := fun _ hne => document?_withDocument hne
  aliases := fun _ _ => rfl
  claims := fun _ hm => name?_withDocument_of_ne fun h => hm (List.mem_singleton.2 h.symm)

theorem Spares.trans {names names' : List String} {t'' : Tables} (h : t.Spares t' p names)
    (h' : t'.Spares t'' p names') : t.Spares t'' p (names ++ names') where
  document := fun q hne => (h'.document q hne).trans (h.document q hne)
  aliases := fun q hne => (h'.aliases q hne).trans (h.aliases q hne)
  claims := by
    intro m hm
    rw [List.mem_append, not_or] at hm
    exact (h'.claims m hm.2).trans (h.claims m hm.1)

end Tables

/-- The names that a request claims or releases. -/
def Request.names : Request → List String
  | createAlias _ n => [n]
  | deleteAlias _ n => [n]
  | createDocument p initial => p :: initial.toList
  | _ => []

namespace Tables

variable {t t' : Tables} {fresh : Fresh} {d : Document}

/-- **A granted request spares all other documents and all other names.** -/
theorem Canonical.spares {r : Request} {w : Work Document} (h : t.Canonical)
    (hwork : r.work? fresh = some w) (hrun : w.runOn t = (.ok d, t')) :
    t.Spares t' d.publicId r.names := by
  have htarget := (Request.loads_of_granted hwork hrun).1
  cases r with
  | createAlias p n =>
    cases hwork
    cases htarget
    obtain ⟨-, -, position, -, version, -, -, -, -, rfl, -⟩ := Work.createAlias_eq_ok_iff.1 hrun
    exact (spares_withAlias t (t.newAlias fresh _ n position)).touched _ _
  | deleteAlias p n =>
    cases hwork
    cases htarget
    obtain ⟨-, a, -, version, howned, -, -, -, rfl, -⟩ := Work.deleteAlias_eq_ok_iff.1 hrun
    obtain ⟨row, hrow⟩ := Rows.owned_of_ok howned
    have hreleased := h.released hrow.mem
    rw [h.id_eq hrow, hrow.name] at hreleased
    have hremoved : t.Spares (t.withoutAliases (·.id == a.id.render)) d.publicId [n] := by
      refine ⟨fun _ _ => rfl, fun q hne => ?_, fun m hm => ?_⟩
      · refine aliasesOf_withoutAliases_of_ne (fun b hb hid => ?_) hne
        exact h.document_of_id hrow hb (beq_iff_eq.1 hid)
      · exact hreleased.name?_of_ne fun hmn => hm (List.mem_singleton.2 hmn)
    exact hremoved.touched _ _
  | promoteAlias p n =>
    cases hwork
    cases htarget
    obtain ⟨-, a, howned, -, hcase⟩ := Work.promoteAlias_eq_ok_iff.1 hrun
    rcases hcase with ⟨-, rfl⟩ | ⟨-, -, version, -, -, -, rfl⟩
    · exact Spares.refl _ _ _
    · obtain ⟨row, hrow⟩ := Rows.owned_of_ok howned
      have hmoved : t.Spares (t.flagMoved d.publicId a.id) d.publicId [] := by
        refine ⟨fun _ _ => rfl, fun q hne => ?_, fun _ _ => rfl⟩
        refine aliasesOf_flagMoved_of_ne (fun b hb hdoc => ?_) hne
        rw [← h.id_eq hrow]
        exact h.promotedRow_of_ne hrow.mem_aliasesOf hb hdoc
      exact hmoved.touched _ _
  | createDocument p initial =>
    cases hwork
    cases htarget
    cases initial with
    | none =>
      obtain ⟨-, -, rfl, -⟩ := Work.createDocument_none_eq_ok_iff.1 hrun
      exact spares_withDocument t _
    | some n =>
      obtain ⟨-, -, -, -, -, rfl, -⟩ := Work.createDocument_some_eq_ok_iff.1 hrun
      have hdocument := spares_withDocument t ⟨d.publicId, 0, fresh.now, fresh.now⟩
      exact hdocument.trans (spares_withAlias _ (Rows.aliasRow
        { id := fresh.id, name := n, primary := true, document := d.publicId } 0))
  | _ => cases hwork

end Tables

end Namebook
